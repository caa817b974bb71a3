import Jts.Excitation.StimulusId

set_option autoImplicit false

namespace Jts.Excitation

open Shared.Outcome

variable {K : Type} [Field K] [LinearOrder K] [IsStrictOrderedRing K] [FloorRing K] {log : K → K}

section pieces

omit [LinearOrder K] [IsStrictOrderedRing K] [FloorRing K] in
theorem silence_eq_ok {segmentId : String} {nSamples : ℕ} {piece : Piece K} (made : silence segmentId nSamples = .ok piece) :
    piece.segmentId = segmentId ∧ piece.kind = .silence ∧ piece.nSamples = nSamples := by
  unfold silence at made
  split at made
  · obtain rfl := Except.ok.inj made
    exact ⟨rfl, rfl, rfl⟩
  · cases made

omit [IsStrictOrderedRing K] in
/-- A stimulus is a sweep that is made at its level, in its voice. -/
theorem stimulus_eq_ok {segmentId : String} {voice : Voice K} {durationS gainDb downstreamGainDb : K} {piece : Piece K}
    (made : stimulus log segmentId voice durationS gainDb downstreamGainDb = .ok piece) :
    ∃ sweep, sweepMeta log voice.f1Hz voice.f2Hz durationS gainDb = .ok sweep ∧ ∃ some : 0 < sweep.nSamples.toNat,
      piece = ⟨segmentId, voice.kind, voice.role, voice.channel, sweep.nSamples.toNat, sweep.f1, sweep.f2, gainDb,
        gainDb + downstreamGainDb, some⟩ := by
  obtain ⟨sweep, swept, rest⟩ := bind_eq_ok.mp made
  refine ⟨sweep, swept, ?_⟩
  split at rest
  · exact ⟨‹_›, (Except.ok.inj rest).symm⟩
  · cases rest

/-- A piece that plays a stimulus on a channel. -/
def Piece.Sounds {K : Type} (piece : Piece K) : Prop := piece.kind.isStimulus = true ∧ ∃ channel : ℕ, piece.channel = Option.some channel

omit [IsStrictOrderedRing K] in
theorem stimulus_sounds {segmentId : String} {voice : Voice K} {durationS gainDb downstreamGainDb : K} {piece : Piece K}
    (made : stimulus log segmentId voice durationS gainDb downstreamGainDb = .ok piece) (kind : voice.kind.isStimulus = true) :
    piece.Sounds := by
  obtain ⟨sweep, -, some, rfl⟩ := stimulus_eq_ok made
  exact ⟨kind, voice.channel, rfl⟩

/-- An id that starts like none of the prelude's. -/
def Apart (segmentId : String) : Prop := segmentId.toList.head? ≠ some 'c'

theorem Apart.ne_courtesyGap {segmentId : String} (apart : Apart segmentId) : segmentId ≠ courtesyGapSegmentId := by
  rintro rfl
  exact apart (by decide)

/-- A piece as the composers make them: silence, or a stimulus, under an id of its own. -/
inductive Piece.Composed (log : K → K) : Piece K → Prop
  | silence {segmentId : String} {nSamples : ℕ} {piece : Piece K} (made : Excitation.silence segmentId nSamples = .ok piece)
      (apart : Apart segmentId) : Composed log piece
  | stimulus {segmentId : String} {voice : Voice K} {durationS gainDb downstreamGainDb : K} {piece : Piece K}
      (made : Excitation.stimulus log segmentId voice durationS gainDb downstreamGainDb = .ok piece)
      (kind : voice.kind.isStimulus = true) (apart : Apart segmentId) : Composed log piece

def Composed (log : K → K) (pieces : List (Piece K)) : Prop := ∀ piece ∈ pieces, piece.Composed log

omit [IsStrictOrderedRing K] in
theorem Composed.append {first second : List (Piece K)} (one : Composed log first) (other : Composed log second) :
    Composed log (first ++ second) := by
  intro piece mem
  obtain mem | mem := List.mem_append.mp mem
  · exact one piece mem
  · exact other piece mem

omit [IsStrictOrderedRing K] in
theorem Composed.singleton {piece : Piece K} (composed : piece.Composed log) : Composed log [piece] := by
  intro other mem
  rwa [List.mem_singleton.mp mem]

omit [IsStrictOrderedRing K] in
theorem Composed.plain {pieces : List (Piece K)} (composed : Composed log pieces) : Plain pieces := by
  intro piece mem
  cases composed piece mem with
  | silence made apart =>
      obtain ⟨id, kind, -⟩ := silence_eq_ok made
      rw [id, kind]
      exact ⟨nofun, apart.ne_courtesyGap⟩
  | stimulus made kind apart =>
      obtain ⟨sweep, -, some, rfl⟩ := stimulus_eq_ok made
      exact ⟨fun tone => absurd (congrArg Kind.isStimulus tone) (by rw [kind]; nofun), apart.ne_courtesyGap⟩

omit [IsStrictOrderedRing K] in
theorem leadingPilotPair_eq_ok {role : String} {voice : Voice K} {gainsDb : K × K} {pilotDurationS pilotGapS downstreamGainDb : K}
    {pieces : List (Piece K)} (made : leadingPilotPair log role voice gainsDb pilotDurationS pilotGapS downstreamGainDb = .ok pieces) :
    ∃ gapN lo loGap hi hiGap, secondsToSamples pilotGapS = .ok gapN ∧
      stimulus log ("pilot_" ++ role ++ "_lo") voice pilotDurationS gainsDb.1 downstreamGainDb = .ok lo ∧
      silence ("pilot_gap_" ++ role ++ "_lo") gapN = .ok loGap ∧
      stimulus log ("pilot_" ++ role ++ "_hi") voice pilotDurationS gainsDb.2 downstreamGainDb = .ok hi ∧
      silence ("pilot_gap_" ++ role ++ "_hi") gapN = .ok hiGap ∧ pieces = [lo, loGap, hi, hiGap] := by
  obtain ⟨gapN, gapN_made, made⟩ := bind_eq_ok.mp made
  obtain ⟨lo, lo_made, made⟩ := bind_eq_ok.mp made
  obtain ⟨loGap, loGap_made, made⟩ := bind_eq_ok.mp made
  obtain ⟨hi, hi_made, made⟩ := bind_eq_ok.mp made
  obtain ⟨hiGap, hiGap_made, made⟩ := bind_eq_ok.mp made
  exact ⟨gapN, lo, loGap, hi, hiGap, gapN_made, lo_made, loGap_made, hi_made, hiGap_made, (Except.ok.inj made).symm⟩

omit [IsStrictOrderedRing K] in
theorem leadingPilotPair_composed {role : String} {voice : Voice K} {gainsDb : K × K} {pilotDurationS pilotGapS downstreamGainDb : K}
    {pieces : List (Piece K)} (made : leadingPilotPair log role voice gainsDb pilotDurationS pilotGapS downstreamGainDb = .ok pieces)
    (kind : voice.kind.isStimulus = true) : Composed log pieces := by
  obtain ⟨gapN, lo, loGap, hi, hiGap, -, lo_made, loGap_made, hi_made, hiGap_made, rfl⟩ := leadingPilotPair_eq_ok made
  intro piece mem
  simp only [List.mem_cons, List.not_mem_nil, or_false] at mem
  obtain rfl | rfl | rfl | rfl := mem
  · exact .stimulus lo_made kind (by simp [Apart])
  · exact .silence loGap_made (by simp [Apart])
  · exact .stimulus hi_made kind (by simp [Apart])
  · exact .silence hiGap_made (by simp [Apart])

omit [IsStrictOrderedRing K] in
theorem pilotAmbientWindow_eq_ok {ambient : Piece K} (made : pilotAmbientWindow = .ok ambient) :
    ∃ ambientN, silence ambientSegmentId ambientN = .ok ambient := by
  obtain ⟨ambientN, -, made⟩ := bind_eq_ok.mp made
  exact ⟨ambientN, made⟩

omit [IsStrictOrderedRing K] in
theorem pilotAmbientWindow_composed {ambient : Piece K} (made : pilotAmbientWindow = .ok ambient) : ambient.Composed log := by
  obtain ⟨ambientN, made⟩ := pilotAmbientWindow_eq_ok made
  exact .silence made (by simp [Apart, ambientSegmentId])

omit [IsStrictOrderedRing K] in
theorem checkPilots_composed {args : CheckArgs K} {gapN : ℕ} {rb : RoleBand K} {pieces : List (Piece K)}
    (made : checkPilots log args gapN rb = .ok pieces) : Composed log pieces ∧ ∃ piece ∈ pieces, piece.Sounds := by
  obtain ⟨⟨f1Hz, f2Hz⟩, -, made⟩ := bind_eq_ok.mp made
  obtain ⟨lo, lo_made, made⟩ := bind_eq_ok.mp made
  obtain ⟨loGap, loGap_made, made⟩ := bind_eq_ok.mp made
  obtain ⟨hi, hi_made, made⟩ := bind_eq_ok.mp made
  obtain ⟨hiGap, hiGap_made, made⟩ := bind_eq_ok.mp made
  obtain rfl := Except.ok.inj made
  refine ⟨?_, lo, List.mem_cons_self, stimulus_sounds lo_made rfl⟩
  intro piece mem
  simp only [List.mem_cons, List.not_mem_nil, or_false] at mem
  obtain rfl | rfl | rfl | rfl := mem
  · exact .stimulus lo_made rfl (by simp [Apart])
  · exact .silence loGap_made (by simp [Apart])
  · exact .stimulus hi_made rfl (by simp [Apart])
  · exact .silence hiGap_made (by simp [Apart])

end pieces

section plans

omit [IsStrictOrderedRing K] [FloorRing K] in
theorem validateRoles_eq_ok {rolesBands roles : List (RoleBand K)} (valid : validateRoles rolesBands = .ok roles) :
    roles = rolesBands ∧ roles ≠ [] := by
  unfold validateRoles at valid
  by_cases none : rolesBands = []
  · rw [if_pos none] at valid
    cases valid
  rw [if_neg none] at valid
  by_cases channels : ¬ (rolesBands.map (·.channel)).Nodup
  · rw [if_pos channels] at valid
    cases valid
  rw [if_neg channels] at valid
  by_cases named : ¬ (rolesBands.map (·.role)).Nodup
  · rw [if_pos named] at valid
    cases valid
  · rw [if_neg named] at valid
    obtain rfl := Except.ok.inj valid
    exact ⟨rfl, none⟩

/-- A plan that its prelude can be told from. -/
structure Announceable (log : K → K) (plan : Plan K) : Prop where
  composed : Composed log plan.pieces
  sounds : ∃ piece ∈ plan.pieces, piece.Sounds

omit [IsStrictOrderedRing K] in
theorem checkPlan_announceable {args : CheckArgs K} {plan : Plan K} (made : checkPlan log args = .ok plan) : Announceable log plan := by
  obtain ⟨roles, valid, made⟩ := bind_eq_ok.mp made
  obtain ⟨ambientN, -, made⟩ := bind_eq_ok.mp made
  obtain ⟨ambient, ambient_made, made⟩ := bind_eq_ok.mp made
  obtain ⟨gapN, -, made⟩ := bind_eq_ok.mp made
  obtain ⟨pilots, pilots_made, made⟩ := bind_eq_ok.mp made
  obtain rfl := Except.ok.inj made
  constructor
  next =>
    refine Composed.append (fun piece mem => ?_) fun piece mem => ?_
    · rw [List.mem_singleton.mp mem]
      exact .silence ambient_made (by simp [Apart, ambientSegmentId])
    · obtain ⟨pieces, there, mem⟩ := List.mem_flatten.mp mem
      obtain ⟨rb, -, made⟩ := exists_of_mem_mapM pilots_made there
      exact (checkPilots_composed made).1 piece mem
  next =>
    obtain ⟨rb, rest, rfl⟩ := List.exists_cons_of_ne_nil (validateRoles_eq_ok valid).2
    obtain ⟨pieces, others, first, -, rfl⟩ := List.forall₂_cons_left_iff.mp (mapM_eq_ok.mp pilots_made)
    obtain ⟨piece, mem, sounds⟩ := (checkPilots_composed first).2
    exact ⟨piece, List.mem_append_right _ (List.mem_flatten_of_mem List.mem_cons_self mem), sounds⟩

section measure

/-- What the ids of a cycle start with. -/
def cycleNames : List String := ["sweep_w", "gap_w_w", "gap_w_t", "sweep_t", "gap_t_w"]

/-- A piece of some cycle. -/
structure InCycle (log : K → K) (cycle : ℕ) (piece : Piece K) : Prop where
  composed : piece.Composed log
  named : ∃ name ∈ cycleNames, piece.segmentId = name ++ occurrenceSuffix cycle

theorem apart_of_cycleNames {name : String} (mem : name ∈ cycleNames) (cycle : ℕ) : Apart (name ++ occurrenceSuffix cycle) := by
  simp only [cycleNames, List.mem_cons, List.not_mem_nil, or_false] at mem
  obtain rfl | rfl | rfl | rfl | rfl := mem <;> simp [Apart]

omit [IsStrictOrderedRing K] in
theorem silence_inCycle {name : String} {nSamples cycle : ℕ} {piece : Piece K}
    (made : silence (name ++ occurrenceSuffix cycle) nSamples = .ok piece) (mem : name ∈ cycleNames) : InCycle log cycle piece :=
  ⟨.silence made (apart_of_cycleNames mem cycle), name, mem, (silence_eq_ok made).1⟩

omit [IsStrictOrderedRing K] in
theorem stimulus_inCycle {name : String} {cycle : ℕ} {voice : Voice K} {durationS gainDb downstreamGainDb : K} {piece : Piece K}
    (made : stimulus log (name ++ occurrenceSuffix cycle) voice durationS gainDb downstreamGainDb = .ok piece)
    (kind : voice.kind = .sweep) (mem : name ∈ cycleNames) : InCycle log cycle piece := by
  refine ⟨.stimulus made (by rw [kind]; rfl) (apart_of_cycleNames mem cycle), name, mem, ?_⟩
  obtain ⟨sweep, -, some, rfl⟩ := stimulus_eq_ok made
  rfl

omit [IsStrictOrderedRing K] in
/-- A cycle is its sweeps, and the gap behind them where another cycle follows. -/
theorem measureCycle_eq_ok {woofer : Driver K} {tweeter : Option (Driver K)} {downstreamGainDb : K} {repeatCount cycle : ℕ}
    {pieces : List (Piece K)} (made : measureCycle log woofer tweeter downstreamGainDb repeatCount cycle = .ok pieces)
    (swept : woofer.voice.kind = .sweep) (sweptToo : ∀ driver ∈ tweeter, driver.voice.kind = .sweep) :
    ∃ sweeps gap, measureCycle log woofer tweeter downstreamGainDb 1 cycle = .ok sweeps ∧ pieces = sweeps ++ gap ∧
      (gap = [] ↔ ¬ cycle < repeatCount - 1) ∧ gap.length ≤ 1 ∧ (∃ piece ∈ sweeps, piece.Sounds) ∧
      ∀ piece ∈ pieces, InCycle log cycle piece := by
  obtain ⟨sweepW, w_made, made⟩ := bind_eq_ok.mp made
  have w_within := stimulus_inCycle w_made swept (by decide)
  have sounds := stimulus_sounds w_made (by rw [swept]; rfl)
  unfold measureCycle
  simp only [Nat.sub_self, Nat.not_lt_zero, if_false, w_made]
  cases tweeter with
  | none =>
      refine ⟨[sweepW], ?_⟩
      by_cases more : cycle < repeatCount - 1
      · rw [if_pos more] at made
        obtain ⟨gapW, gap_made, made⟩ := bind_eq_ok.mp made
        obtain rfl := Except.ok.inj made
        refine ⟨[gapW], rfl, rfl, by simp [more], le_refl _, ⟨sweepW, List.mem_cons_self, sounds⟩, ?_⟩
        simp [w_within, silence_inCycle gap_made (by decide)]
      · rw [if_neg more] at made
        obtain rfl := Except.ok.inj made
        exact ⟨[], rfl, rfl, by simp [more], Nat.zero_le _, ⟨sweepW, List.mem_cons_self, sounds⟩, by simp [w_within]⟩
  | some tweeter =>
      obtain ⟨gapW, gap_made, made⟩ := bind_eq_ok.mp made
      obtain ⟨sweepT, t_made, made⟩ := bind_eq_ok.mp made
      have g_within : InCycle log cycle gapW := silence_inCycle gap_made (by decide)
      have t_within := stimulus_inCycle t_made (sweptToo tweeter rfl) (by decide)
      simp only [gap_made, t_made]
      refine ⟨[sweepW, gapW, sweepT], ?_⟩
      by_cases more : cycle < repeatCount - 1
      · rw [if_pos more] at made
        obtain ⟨gapT, last_made, made⟩ := bind_eq_ok.mp made
        obtain rfl := Except.ok.inj made
        refine ⟨[gapT], rfl, rfl, by simp [more], le_refl _, ⟨sweepW, List.mem_cons_self, sounds⟩, ?_⟩
        simp [w_within, g_within, t_within, silence_inCycle last_made (by decide)]
      · rw [if_neg more] at made
        obtain rfl := Except.ok.inj made
        exact ⟨[], rfl, rfl, by simp [more], Nat.zero_le _, ⟨sweepW, List.mem_cons_self, sounds⟩, by simp [w_within, g_within, t_within]⟩

/-- What a MEASURE plan is made of. -/
structure MeasureParts (K : Type) [Zero K] [LE K] [LT K] where
  roles : List (RoleBand K)
  wooferBand : RoleBand K
  tweeterBand : Option (RoleBand K)
  channels : ℕ
  woofer : Driver K
  tweeter : Option (Driver K)
  pilots : Option (List (Piece K))
  guardN : ℕ
  guard : Piece K
  cycles : List (List (Piece K))
  tailN : ℕ
  tail : Piece K

structure MeasureParts.Made (log : K → K) (parts : MeasureParts K) (args : MeasureArgs K) (gains : MeasureGains K) (repeatCount : ℕ) :
    Prop where
  roles : validateRoles args.rolesBands = .ok parts.roles
  bands : measureDrivers parts.roles = .ok (parts.wooferBand, parts.tweeterBand)
  repeats : repeatCount ≠ 0
  channels : measureChannels args.channels (programWidth parts.roles) = .ok parts.channels
  woofer : driver log args gains defaultWooferSweepS parts.wooferBand = .ok parts.woofer
  tweeter : optionally (driver log args gains defaultTweeterSweepS) parts.tweeterBand = .ok parts.tweeter
  pilots : measurePilots log args gains parts.roles parts.wooferBand = .ok parts.pilots
  guardN : secondsToSamples args.guardS = .ok parts.guardN
  guard : silence "guard" parts.guardN = .ok parts.guard
  cycles : (List.range repeatCount).mapM (measureCycle log parts.woofer parts.tweeter gains.downstreamGainDb repeatCount) = .ok parts.cycles
  tailN : secondsToSamples args.tailS = .ok parts.tailN
  tail : silence "tail" parts.tailN = .ok parts.tail

omit [IsStrictOrderedRing K] in
theorem measurePlan_eq_ok {args : MeasureArgs K} {gains : MeasureGains K} {repeatCount : ℕ} {plan : Plan K}
    (made : measurePlan log args gains repeatCount = .ok plan) :
    ∃ parts : MeasureParts K, parts.Made log args gains repeatCount ∧
      plan = leadPlan .measure parts.channels parts.pilots parts.guard (parts.cycles.flatten ++ [parts.tail]) gains.downstreamGainDb := by
  obtain ⟨roles, valid, made⟩ := bind_eq_ok.mp made
  obtain ⟨⟨wooferBand, tweeterBand⟩, bands, made⟩ := bind_eq_ok.mp made
  dsimp only at made
  by_cases repeats : repeatCount = 0
  · rw [if_pos repeats] at made
    cases made
  rw [if_neg repeats] at made
  obtain ⟨channels, width, made⟩ := bind_eq_ok.mp made
  obtain ⟨woofer, w_made, made⟩ := bind_eq_ok.mp made
  obtain ⟨tweeter, t_made, made⟩ := bind_eq_ok.mp made
  obtain ⟨pilots, p_made, made⟩ := bind_eq_ok.mp made
  obtain ⟨guardN, guardN_made, made⟩ := bind_eq_ok.mp made
  obtain ⟨guard, guard_made, made⟩ := bind_eq_ok.mp made
  obtain ⟨cycles, cycles_made, made⟩ := bind_eq_ok.mp made
  obtain ⟨tailN, tailN_made, made⟩ := bind_eq_ok.mp made
  obtain ⟨tail, tail_made, made⟩ := bind_eq_ok.mp made
  exact ⟨⟨roles, wooferBand, tweeterBand, channels, woofer, tweeter, pilots, guardN, guard, cycles, tailN, tail⟩,
    ⟨valid, bands, repeats, width, w_made, t_made, p_made, guardN_made, guard_made, cycles_made, tailN_made, tail_made⟩,
    (Except.ok.inj made).symm⟩

omit [IsStrictOrderedRing K] in
theorem driver_voice {args : MeasureArgs K} {gains : MeasureGains K} {nominalS : K} {rb : RoleBand K} {made : Driver K}
    (drives : driver log args gains nominalS rb = .ok made) : made.voice.kind = .sweep := by
  obtain ⟨gainDb, -, drives⟩ := bind_eq_ok.mp drives
  obtain ⟨⟨f1, f2⟩, -, drives⟩ := bind_eq_ok.mp drives
  obtain ⟨⟨sweep, durationS⟩, -, drives⟩ := bind_eq_ok.mp drives
  obtain ⟨gapN, -, drives⟩ := bind_eq_ok.mp drives
  obtain rfl := Except.ok.inj drives
  rfl

omit [Field K] [LinearOrder K] [IsStrictOrderedRing K] [FloorRing K] in
theorem optionally_eq_ok {A B : Type} {f : A → Except ComposeError B} {value : Option A} {result : Option B}
    (made : optionally f value = .ok result) :
    (value = none ∧ result = none) ∨ ∃ given one, value = some given ∧ result = some one ∧ f given = .ok one := by
  cases value with
  | none => exact .inl ⟨rfl, (Except.ok.inj made).symm⟩
  | some given =>
      change Except.map some (f given) = .ok result at made
      cases found : f given with
      | error error =>
          rw [found] at made
          cases made
      | ok one =>
          rw [found] at made
          exact .inr ⟨given, one, rfl, (Except.ok.inj made).symm, found⟩

section parts

variable {parts : MeasureParts K} {args : MeasureArgs K} {gains : MeasureGains K} {repeatCount : ℕ}

omit [IsStrictOrderedRing K] in
theorem MeasureParts.Made.swept (made : parts.Made log args gains repeatCount) : parts.woofer.voice.kind = .sweep :=
  driver_voice made.woofer

omit [IsStrictOrderedRing K] in
theorem MeasureParts.Made.sweptToo (made : parts.Made log args gains repeatCount) :
    ∀ driver ∈ parts.tweeter, driver.voice.kind = .sweep := by
  intro driver mem
  obtain ⟨-, none⟩ | ⟨rb, one, -, some, drives⟩ := optionally_eq_ok made.tweeter
  · rw [none] at mem
    cases mem
  · rw [some] at mem
    obtain rfl := Option.some.inj mem
    exact driver_voice drives

omit [IsStrictOrderedRing K] in
/-- Without levels for them there are no pilots; with levels the room is heard first. -/
theorem measurePilots_eq_ok {roles : List (RoleBand K)} {woofer : RoleBand K} {pilots : Option (List (Piece K))}
    (made : measurePilots log args gains roles woofer = .ok pilots) :
    (gains.leadingPilotGainsDb = none ∧ pilots = none) ∨
      ∃ gainsDb rb f1 f2 ambient pair, gains.leadingPilotGainsDb = some gainsDb ∧ pilotRole args roles woofer = .ok rb ∧
        measureBand args rb = .ok (f1, f2) ∧ pilotAmbientWindow = .ok ambient ∧
        leadingPilotPair log rb.role ⟨.pilot, rb.role, rb.channel, f1, f2⟩ gainsDb args.pilotDurationS args.pilotGapS
          gains.downstreamGainDb = .ok pair ∧ pilots = some (ambient :: pair) := by
  unfold measurePilots at made
  cases levels : gains.leadingPilotGainsDb with
  | none =>
      rw [levels] at made
      exact .inl ⟨rfl, (Except.ok.inj made).symm⟩
  | some gainsDb =>
      rw [levels] at made
      obtain ⟨rb, role, made⟩ := bind_eq_ok.mp made
      obtain ⟨⟨f1, f2⟩, band, made⟩ := bind_eq_ok.mp made
      obtain ⟨ambient, ambient_made, made⟩ := bind_eq_ok.mp made
      obtain ⟨pair, pair_made, made⟩ := bind_eq_ok.mp made
      exact .inr ⟨gainsDb, rb, f1, f2, ambient, pair, rfl, role, band, ambient_made, pair_made, (Except.ok.inj made).symm⟩

omit [IsStrictOrderedRing K] in
theorem measurePilots_composed {roles : List (RoleBand K)} {woofer : RoleBand K} {pilots : Option (List (Piece K))}
    (made : measurePilots log args gains roles woofer = .ok pilots) : Composed log (pilots.getD []) := by
  obtain ⟨-, rfl⟩ | ⟨_, _, _, _, ambient, pair, -, -, -, ambient_made, pair_made, rfl⟩ := measurePilots_eq_ok made
  · exact fun piece mem => nomatch mem
  · exact Composed.append (.singleton (pilotAmbientWindow_composed ambient_made)) (leadingPilotPair_composed pair_made rfl)

omit [Field K] [LinearOrder K] [IsStrictOrderedRing K] [FloorRing K] in
theorem leadPlan_pieces {phase : Phase} {channels : ℕ} {pilots : Option (List (Piece K))} {guard : Piece K} {body : List (Piece K)}
    {downstreamGainDb : K} : (leadPlan phase channels pilots guard body downstreamGainDb).pieces = pilots.getD [] ++ [guard] ++ body := by
  cases pilots with
  | none => rfl
  | some pilots => rfl

omit [IsStrictOrderedRing K] in
theorem measurePlan_announceable {plan : Plan K} (planned : measurePlan log args gains repeatCount = .ok plan) : Announceable log plan := by
  obtain ⟨parts, made, rfl⟩ := measurePlan_eq_ok planned
  have cycle (pieces : List (Piece K)) (mem : pieces ∈ parts.cycles) :
      ∃ index, (∃ piece ∈ pieces, piece.Sounds) ∧ ∀ piece ∈ pieces, InCycle log index piece := by
    obtain ⟨index, -, cycled⟩ := exists_of_mem_mapM made.cycles mem
    obtain ⟨sweeps, gap, -, rfl, -, -, ⟨piece, mem, sounds⟩, within⟩ := measureCycle_eq_ok cycled made.swept made.sweptToo
    exact ⟨index, ⟨piece, List.mem_append_left _ mem, sounds⟩, within⟩
  constructor
  next =>
    rw [leadPlan_pieces]
    refine ((measurePilots_composed made.pilots).append (.singleton ?_)).append (.append (fun piece mem => ?_) (.singleton ?_))
    · exact .silence made.guard (by simp [Apart])
    · obtain ⟨pieces, there, mem⟩ := List.mem_flatten.mp mem
      obtain ⟨index, -, within⟩ := cycle pieces there
      exact (within piece mem).composed
    · exact .silence made.tail (by simp [Apart])
  next =>
    obtain ⟨first, rest, eq⟩ := List.exists_cons_of_ne_nil (l := parts.cycles) (by
      rintro none
      have lengths := (mapM_eq_ok.mp made.cycles).length_eq
      rw [none, List.length_range] at lengths
      exact made.repeats lengths)
    obtain ⟨index, ⟨piece, mem, sounds⟩, -⟩ := cycle first (by rw [eq]; exact List.mem_cons_self)
    refine ⟨piece, ?_, sounds⟩
    rw [leadPlan_pieces, eq]
    exact List.mem_append_right _ (List.mem_append_left _ (List.mem_flatten_of_mem List.mem_cons_self mem))

end parts

end measure

section verify

/-- What a VERIFY plan is made of. -/
structure VerifyParts (K : Type) where
  sweep : Piece K
  pilots : Option (List (Piece K))
  guardN : ℕ
  guard : Piece K
  tailN : ℕ
  tail : Piece K

structure VerifyParts.Made (log : K → K) (parts : VerifyParts K) (args : VerifyArgs K) : Prop where
  sweep : verifySweep log args = .ok parts.sweep
  pilots : verifyPilots log args = .ok parts.pilots
  guardN : secondsToSamples args.guardS = .ok parts.guardN
  guard : silence "guard" parts.guardN = .ok parts.guard
  tailN : secondsToSamples args.tailS = .ok parts.tailN
  tail : silence "tail" parts.tailN = .ok parts.tail

omit [IsStrictOrderedRing K] in
theorem verifyPlan_eq_ok {args : VerifyArgs K} {plan : Plan K} (made : verifyPlan log args = .ok plan) :
    ∃ parts : VerifyParts K, parts.Made log args ∧
      plan = leadPlan .verify 1 parts.pilots parts.guard [parts.sweep, parts.tail] args.downstreamGainDb := by
  obtain ⟨sweep, s_made, made⟩ := bind_eq_ok.mp made
  obtain ⟨pilots, p_made, made⟩ := bind_eq_ok.mp made
  obtain ⟨guardN, guardN_made, made⟩ := bind_eq_ok.mp made
  obtain ⟨guard, guard_made, made⟩ := bind_eq_ok.mp made
  obtain ⟨tailN, tailN_made, made⟩ := bind_eq_ok.mp made
  obtain ⟨tail, tail_made, made⟩ := bind_eq_ok.mp made
  exact ⟨⟨sweep, pilots, guardN, guard, tailN, tail⟩, ⟨s_made, p_made, guardN_made, guard_made, tailN_made, tail_made⟩,
    (Except.ok.inj made).symm⟩

omit [IsStrictOrderedRing K] in
theorem verifySweep_made {args : VerifyArgs K} {sweep : Piece K} (made : verifySweep log args = .ok sweep) :
    ∃ lowEdge pilotBand f1Hz f2Hz sweepS, verifyEdges args = .ok (lowEdge, pilotBand) ∧ verifyBand args lowEdge = .ok (f1Hz, f2Hz) ∧
      summedSweepDurationS log f1Hz f2Hz args.roles args.sweepDurationLimitsS args.sweepS = .ok sweepS ∧
      stimulus log sweepVerifyId ⟨.summedSweep, none, 0, f1Hz, f2Hz⟩ sweepS args.gainDb args.downstreamGainDb = .ok sweep := by
  obtain ⟨⟨lowEdge, pilotBand⟩, edges, made⟩ := bind_eq_ok.mp made
  obtain ⟨⟨f1Hz, f2Hz⟩, band, made⟩ := bind_eq_ok.mp made
  obtain ⟨sweepS, duration, made⟩ := bind_eq_ok.mp made
  exact ⟨lowEdge, pilotBand, f1Hz, f2Hz, sweepS, edges, band, duration, made⟩

omit [IsStrictOrderedRing K] in
theorem verifySweep_eq_ok {args : VerifyArgs K} {sweep : Piece K} (made : verifySweep log args = .ok sweep) :
    sweep.segmentId = sweepVerifyId ∧ sweep.kind = .summedSweep ∧ sweep.channel = Option.some 0 := by
  obtain ⟨_, _, _, _, _, -, -, -, made⟩ := verifySweep_made made
  obtain ⟨derived, -, some, rfl⟩ := stimulus_eq_ok made
  exact ⟨rfl, rfl, rfl⟩

/-- Pilots end with one that is heard, and the gap behind it. -/
structure Leading (log : K → K) (early : List (Piece K)) (last gap : Piece K) : Prop where
  composed : Composed log (early ++ [last, gap])
  apart : ∀ piece ∈ early ++ [last, gap], piece.segmentId ≠ sweepVerifyId
  heard : last.kind.isKnownAudible = true
  quiet : gap.kind.isKnownAudible = false

omit [IsStrictOrderedRing K] in
theorem verifyPilots_made {args : VerifyArgs K} {pilots : Option (List (Piece K))} (made : verifyPilots log args = .ok pilots) :
    (args.leadingPilotGainsDb = none ∧ pilots = none) ∨
      ∃ gainsDb lo hi ambient pair, args.leadingPilotGainsDb = some gainsDb ∧ pilotAmbientWindow = .ok ambient ∧
        leadingPilotPair log verifyPilotRole ⟨.pilot, verifyPilotRole, 0, lo, hi⟩ gainsDb args.pilotDurationS args.pilotGapS
          args.downstreamGainDb = .ok pair ∧ pilots = some (ambient :: pair) := by
  unfold verifyPilots at made
  cases levels : args.leadingPilotGainsDb with
  | none =>
      rw [levels] at made
      exact .inl ⟨rfl, (Except.ok.inj made).symm⟩
  | some gainsDb =>
      rw [levels] at made
      obtain ⟨⟨edge, lo, hi⟩, -, made⟩ := bind_eq_ok.mp made
      obtain ⟨ambient, ambient_made, made⟩ := bind_eq_ok.mp made
      obtain ⟨pair, pair_made, made⟩ := bind_eq_ok.mp made
      exact .inr ⟨gainsDb, lo, hi, ambient, pair, rfl, ambient_made, pair_made, (Except.ok.inj made).symm⟩

omit [IsStrictOrderedRing K] in
theorem verifyPilots_eq_ok {args : VerifyArgs K} {pilots : Option (List (Piece K))} (made : verifyPilots log args = .ok pilots) :
    (pilots = none ∧ args.leadingPilotGainsDb = none) ∨
      ∃ early last gap, pilots = some (early ++ [last, gap]) ∧ args.leadingPilotGainsDb.isSome ∧ Leading log early last gap := by
  obtain ⟨levels, none⟩ | ⟨gainsDb, lo, hi, ambient, pair, levels, ambient_made, pair_made, rfl⟩ := verifyPilots_made made
  · exact .inl ⟨none, levels⟩
  · rw [levels]
    have composed := Composed.append (.singleton (pilotAmbientWindow_composed ambient_made)) (leadingPilotPair_composed pair_made rfl)
    obtain ⟨ambientN, ambient_made⟩ := pilotAmbientWindow_eq_ok ambient_made
    obtain ⟨gapN, lo, loGap, hi, hiGap, -, lo_made, loGap_made, hi_made, hiGap_made, rfl⟩ := leadingPilotPair_eq_ok pair_made
    obtain ⟨ambientId, -⟩ := silence_eq_ok ambient_made
    obtain ⟨loGapId, -⟩ := silence_eq_ok loGap_made
    obtain ⟨hiGapId, hiGapKind, -⟩ := silence_eq_ok hiGap_made
    obtain ⟨_, -, _, rfl⟩ := stimulus_eq_ok lo_made
    obtain ⟨_, -, _, rfl⟩ := stimulus_eq_ok hi_made
    refine .inr ⟨[ambient, _, loGap], _, hiGap, rfl, rfl, composed, ?_, rfl, by rw [hiGapKind]; rfl⟩
    simp [ambientId, loGapId, hiGapId, ambientSegmentId, sweepVerifyId, verifyPilotRole]

omit [IsStrictOrderedRing K] in
theorem verifyPlan_announceable {args : VerifyArgs K} {plan : Plan K} (planned : verifyPlan log args = .ok plan) : Announceable log plan := by
  obtain ⟨parts, made, rfl⟩ := verifyPlan_eq_ok planned
  obtain ⟨-, kind, carried⟩ := verifySweep_eq_ok made.sweep
  constructor
  next =>
    rw [leadPlan_pieces]
    have pilots : Composed log (parts.pilots.getD []) := by
      obtain ⟨none, -⟩ | ⟨early, last, gap, eq, -, leading⟩ := verifyPilots_eq_ok made.pilots
      · rw [none]
        exact fun piece mem => nomatch mem
      · rw [eq]
        exact leading.composed
    refine (pilots.append (.singleton (.silence made.guard (by simp [Apart])))).append (.append (.singleton ?_) (.singleton ?_))
    · obtain ⟨_, _, _, _, _, -, -, -, swept⟩ := verifySweep_made made.sweep
      exact .stimulus swept rfl (by simp [Apart, sweepVerifyId])
    · exact .silence made.tail (by simp [Apart])
  next =>
    refine ⟨parts.sweep, ?_, by rw [kind]; rfl, 0, carried⟩
    rw [leadPlan_pieces]
    exact List.mem_append_right _ List.mem_cons_self

end verify

end plans

end Jts.Excitation
