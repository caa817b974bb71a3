import Jts.Excitation.TakeIdentity

set_option autoImplicit false

namespace Jts.Excitation

open Shared.Outcome

section occurrence

/-- What ends a list is found where the value before it is none of it. -/
theorem rsplit {A : Type} {p : A → Bool} {front back : List A} {last : A} (stop : p last = false) (all : ∀ value ∈ back, p value = true) :
    (front ++ [last] ++ back).rdropWhile p = front ++ [last] ∧ (front ++ [last] ++ back).rtakeWhile p = back := by
  induction back using List.reverseRecOn with
  | nil =>
      rw [List.append_nil, List.rdropWhile_concat_neg _ _ _ (by simp [stop]), List.rtakeWhile_concat_neg _ _ _ (by simp [stop])]
      exact ⟨rfl, rfl⟩
  | append_singleton back value ih =>
      obtain ⟨drop, take⟩ := ih fun other mem => all other (List.mem_append_left _ mem)
      have here : p value = true := all value (by simp)
      rw [← List.append_assoc, List.rdropWhile_concat_pos _ _ _ here, List.rtakeWhile_concat_pos _ _ _ here, drop, take]
      exact ⟨rfl, rfl⟩

-- The digits are the last ones of the id, and `_rep` stands before them.
theorem occurrenceDigits_append {name digits : List Char} (all : ∀ digit ∈ digits, digit.isDigit = true) :
    occurrenceDigits (name ++ "_rep".toList ++ digits) = some digits := by
  have split : name ++ "_rep".toList = (name ++ "_re".toList) ++ ['p'] := by simp
  obtain ⟨drop, take⟩ := @rsplit _ Char.isDigit (name ++ "_re".toList) digits 'p' rfl all
  rw [← split] at drop take
  have line : (name ++ "_rep".toList ++ digits).getLast?.any isNewline = false := by
    rw [List.getLast?_append]
    cases last : digits.getLast? with
    | none => simp [isNewline]
    | some digit =>
        have is := Char.isDigit_iff_toNat.mp (all digit (List.mem_of_getLast? last))
        change decide (digit.toNat = 0x0A) = false
        have low : '0'.toNat = 48 := rfl
        exact decide_eq_false (by omega)
  unfold occurrenceDigits
  rw [line]
  simp only [Bool.false_eq_true, if_false]
  rw [drop, take, if_pos]
  exact List.isSuffixOf_iff_suffix.mpr (List.suffix_append _ _)

theorem occurrenceIndex_ends {segmentId : String} {last : Char} (ends : segmentId.toList.getLast? = some last) (apart : last ≠ 'p')
    (digit : last.isDigit = false) (line : isNewline last = false) : occurrenceIndex segmentId = 0 := by
  have none : occurrenceDigits segmentId.toList = none := by
    obtain ⟨start, eq⟩ := List.getLast?_eq_some_iff.mp ends
    have drop : segmentId.toList.rdropWhile Char.isDigit = segmentId.toList := by
      rw [eq, List.rdropWhile_concat_neg _ _ _ (by simp [digit])]
    unfold occurrenceDigits
    rw [ends]
    simp only [Option.any_some, line, Bool.false_eq_true, if_false, drop]
    rw [if_neg]
    intro suffix
    obtain ⟨before, same⟩ := List.isSuffixOf_iff_suffix.mp suffix
    rw [← same, List.getLast?_append] at ends
    exact apart (Option.some.inj ends).symm
  rw [occurrenceIndex, none]

theorem occurrenceIndex_append {name : String} (cycle : ℕ) (bare : occurrenceIndex name = 0) :
    occurrenceIndex (name ++ occurrenceSuffix cycle) = cycle := by
  unfold occurrenceSuffix
  by_cases first : cycle = 0
  · rw [if_pos first, String.append_empty, bare, first]
  by_cases second : cycle = 1
  · have digits : occurrenceDigits (name ++ "_rep").toList = some [] := by
      have found := @occurrenceDigits_append name.toList [] nofun
      rwa [List.append_nil, ← String.toList_append] at found
    rw [if_neg first, if_pos second, occurrenceIndex, digits, second]
  · have digits : occurrenceDigits (name ++ ("_rep" ++ toString cycle)).toList = some (Nat.toDigits 10 cycle) := by
      have found := @occurrenceDigits_append name.toList (Nat.toDigits 10 cycle) fun digit mem =>
        Nat.isDigit_of_mem_toDigits (by decide) (by decide) mem
      simpa [String.toList_append, Nat.toString_eq_ofList_toDigits] using found
    rw [if_neg first, if_neg second, occurrenceIndex, digits]
    obtain ⟨digit, rest, eq⟩ := List.exists_cons_of_ne_nil (@Nat.toDigits_ne_nil cycle 10)
    rw [eq]
    change digitsValue (digit :: rest) = cycle
    rw [← eq]
    exact Nat.ofDigitChars_ten_toDigits

end occurrence

section cycles

variable {K : Type}

/-- Pieces that are no later occurrence. -/
def Once (pieces : List (Piece K)) : Prop := ∀ piece ∈ pieces, occurrenceIndex piece.segmentId = 0

theorem Once.append {first second : List (Piece K)} (one : Once first) (other : Once second) : Once (first ++ second) := by
  intro piece mem
  obtain mem | mem := List.mem_append.mp mem
  · exact one piece mem
  · exact other piece mem

theorem Once.not_later {pieces : List (Piece K)} (once : Once pieces) {cursor : ℕ} :
    ∀ segment ∈ place cursor pieces, (!isLater segment) = true := by
  intro segment mem
  simp [isLater, once segment.toPiece (place_within mem).2.2]

/-- A schedule that repeats nothing is one cycle. -/
theorem oneCycle_once {schedule : Schedule K} {pieces : List (Piece K)} (once : Once pieces) (laid : schedule.segments = place 0 pieces) :
    oneCycle schedule = schedule := by
  have none : schedule.segments.rdropWhile (fun segment => !isLater segment) = [] := by
    rw [laid, List.rdropWhile_eq_nil_iff]
    exact once.not_later
  unfold oneCycle
  rw [none]
  simp

theorem place_getLast? {cursor : ℕ} {pieces : List (Piece K)} {last : Piece K} :
    (place cursor (pieces ++ [last])).getLast? = some ⟨last, cursor + span pieces⟩ := by
  rw [place_append]
  simp [place]

/-- The later cycles go, with the gap before the first of them, and what follows them moves to their place. -/
theorem oneCycle_later {schedule : Schedule K} {first later rest : List (Piece K)} {gap : Piece K} (measure : schedule.phase = .measure)
    (once : Once (first ++ [gap])) (onceRest : Once rest) (more : ∀ piece ∈ later, occurrenceIndex piece.segmentId ≠ 0) (some : later ≠ [])
    (laid : schedule.segments = place 0 (first ++ gap :: later ++ rest)) :
    oneCycle schedule =
      { schedule with totalSamples := schedule.totalSamples - span (gap :: later), segments := place 0 (first ++ rest) } := by
  obtain ⟨before, last, rfl⟩ := (List.eq_nil_or_concat' later).resolve_left some
  let here := span (first ++ [gap])
  let there := span (first ++ gap :: (before ++ [last]))
  have spans : here + span (before ++ [last]) = there := by simp [here, there, Nat.add_assoc]
  have parts : schedule.segments = place 0 (first ++ [gap]) ++ (place here (before ++ [last]) ++ place there rest) := by
    rw [laid, show first ++ gap :: (before ++ [last]) ++ rest = (first ++ [gap]) ++ ((before ++ [last]) ++ rest) by simp,
      place_append 0 (first ++ [gap]), place_append _ (before ++ [last]), Nat.zero_add]
    rw [spans]
  have isLast : place here (before ++ [last]) = place here before ++ [⟨last, here + span before⟩] := by
    rw [place_append]
    rfl
  have isLater' : ∀ segment ∈ place here (before ++ [last]), (!isLater segment) = false := by
    intro segment mem
    simp [isLater, more segment.toPiece (place_within mem).2.2]
  have kept : schedule.segments.takeWhile (fun segment => !isLater segment) = place 0 (first ++ [gap]) := by
    obtain ⟨head, tail, eq⟩ := List.exists_cons_of_ne_nil (place_ne_nil some here)
    rw [parts, List.takeWhile_append_of_pos once.not_later, eq, List.cons_append, List.takeWhile_cons_of_neg, List.append_nil]
    rw [isLater' head (by rw [eq]; exact List.mem_cons_self)]
    nofun
  have split : schedule.segments =
      (place 0 (first ++ [gap]) ++ place here before) ++ [⟨last, here + span before⟩] ++ place there rest := by
    rw [parts, isLast]
    simp
  have stop : (!isLater (⟨last, here + span before⟩ : ProgramSegment K)) = false := by
    simp [isLater, more last (by simp)]
  obtain ⟨dropped, after⟩ := @rsplit _ (fun segment : ProgramSegment K => !isLater segment) _ _ _ stop (@Once.not_later _ _ onceRest there)
  rw [← split] at dropped after
  unfold oneCycle
  rw [kept, dropped, after, List.getLast?_concat]
  dsimp only
  rw [place_getLast?]
  have length : (⟨last, here + span before⟩ : ProgramSegment K).endSample - (0 + span first) = span (gap :: (before ++ [last])) := by
    simp [ProgramSegment.endSample, here]
    omega
  have rest_at : there = span first + span (gap :: (before ++ [last])) := by simp [there]
  have first_kept : place 0 (first ++ [gap]) = place 0 first ++ [⟨gap, 0 + span first⟩] := by
    rw [place_append]
    rfl
  simp only [measure, ne_eq, not_true, if_false, Option.some_or, length]
  rw [if_neg (place_ne_nil (by simp) 0), first_kept, List.dropLast_concat, rest_at, place_unshift, place_append, Nat.zero_add]

end cycles

variable {K : Type} [Field K] [LinearOrder K] [IsStrictOrderedRing K] [FloorRing K] {log : K → K}

section measure

omit [IsStrictOrderedRing K] in
theorem InCycle.occurrenceIndex {cycle : ℕ} {piece : Piece K} (within : InCycle log cycle piece) :
    occurrenceIndex piece.segmentId = cycle := by
  obtain ⟨name, mem, id⟩ := within.named
  rw [id]
  apply occurrenceIndex_append
  simp only [cycleNames, List.mem_cons, List.not_mem_nil, or_false] at mem
  obtain rfl | rfl | rfl | rfl | rfl := mem
  all_goals decide

variable {parts : MeasureParts K} {args : MeasureArgs K} {gains : MeasureGains K} {repeatCount : ℕ}

omit [Field K] [LinearOrder K] [IsStrictOrderedRing K] [FloorRing K] in
theorem Once.singleton {piece : Piece K} (once : occurrenceIndex piece.segmentId = 0) : Once [piece] := by
  intro other mem
  rwa [List.mem_singleton.mp mem]

theorem occurrenceIndex_lo (name : String) : occurrenceIndex (name ++ "_lo") = 0 :=
  occurrenceIndex_ends (by rw [String.toList_append, List.getLast?_append]; rfl) (by decide) rfl rfl

theorem occurrenceIndex_hi (name : String) : occurrenceIndex (name ++ "_hi") = 0 :=
  occurrenceIndex_ends (by rw [String.toList_append, List.getLast?_append]; rfl) (by decide) rfl rfl

omit [IsStrictOrderedRing K] in
theorem leadingPilotPair_once {role : String} {voice : Voice K} {gainsDb : K × K} {pilotDurationS pilotGapS downstreamGainDb : K}
    {pieces : List (Piece K)} (made : leadingPilotPair log role voice gainsDb pilotDurationS pilotGapS downstreamGainDb = .ok pieces) :
    Once pieces := by
  obtain ⟨gapN, lo, loGap, hi, hiGap, -, lo_made, loGap_made, hi_made, hiGap_made, rfl⟩ := leadingPilotPair_eq_ok made
  obtain ⟨_, -, _, rfl⟩ := stimulus_eq_ok lo_made
  obtain ⟨_, -, _, rfl⟩ := stimulus_eq_ok hi_made
  intro piece mem
  simp only [List.mem_cons, List.not_mem_nil, or_false] at mem
  obtain rfl | rfl | rfl | rfl := mem
  · exact occurrenceIndex_lo _
  · rw [(silence_eq_ok loGap_made).1]
    exact occurrenceIndex_lo _
  · exact occurrenceIndex_hi _
  · rw [(silence_eq_ok hiGap_made).1]
    exact occurrenceIndex_hi _

omit [IsStrictOrderedRing K] in
theorem measurePilots_once {roles : List (RoleBand K)} {woofer : RoleBand K} {pilots : Option (List (Piece K))}
    (made : measurePilots log args gains roles woofer = .ok pilots) : Once (pilots.getD []) := by
  obtain ⟨-, rfl⟩ | ⟨_, _, _, _, ambient, pair, -, -, -, ambient_made, pair_made, rfl⟩ := measurePilots_eq_ok made
  · exact fun piece mem => nomatch mem
  · obtain ⟨ambientN, ambient_made⟩ := pilotAmbientWindow_eq_ok ambient_made
    refine Once.append (Once.singleton ?_) (leadingPilotPair_once pair_made)
    rw [(silence_eq_ok ambient_made).1]
    decide

omit [LinearOrder K] [IsStrictOrderedRing K] [FloorRing K] in
theorem silence_once {segmentId : String} {nSamples : ℕ} {piece : Piece K} (made : silence segmentId nSamples = .ok piece)
    (once : occurrenceIndex segmentId = 0) : Once [piece] := by
  apply Once.singleton
  rwa [(silence_eq_ok made).1]

omit [IsStrictOrderedRing K] in
/-- The first cycle of a MEASURE program as it plays at one sweep per driver, and the cycles after it. -/
theorem cycles_eq (made : parts.Made log args gains repeatCount) :
    ∃ sweeps gap others, measureCycle log parts.woofer parts.tweeter gains.downstreamGainDb 1 0 = .ok sweeps ∧
      parts.cycles = (sweeps ++ gap) :: others ∧ Once (sweeps ++ gap) ∧
      (gap = [] ∧ others = [] ∨ ∃ piece, gap = [piece] ∧ others.flatten ≠ []) ∧
      ∀ piece ∈ others.flatten, occurrenceIndex piece.segmentId ≠ 0 := by
  obtain ⟨count, rfl⟩ := Nat.exists_eq_succ_of_ne_zero made.repeats
  have cycles := mapM_eq_ok.mp made.cycles
  rw [List.range_succ_eq_map, List.forall₂_cons_left_iff] at cycles
  obtain ⟨first, others, first_made, others_made, eq⟩ := cycles
  obtain ⟨sweeps, gap, alone, rfl, closes, short, -, within⟩ := measureCycle_eq_ok first_made made.swept made.sweptToo
  have later (pieces : List (Piece K)) (mem : pieces ∈ others) :
      (∃ piece, piece ∈ pieces) ∧ ∀ piece ∈ pieces, occurrenceIndex piece.segmentId ≠ 0 := by
    obtain ⟨index, range, cycled⟩ := exists_of_mem_mapM (mapM_eq_ok.mpr others_made) mem
    obtain ⟨before, -, rfl⟩ := List.mem_map.mp range
    obtain ⟨sweeps, gap, -, rfl, -, -, ⟨piece, mem, -⟩, within⟩ := measureCycle_eq_ok cycled made.swept made.sweptToo
    refine ⟨⟨piece, List.mem_append_left _ mem⟩, fun piece mem => ?_⟩
    rw [(within piece mem).occurrenceIndex]
    exact Nat.succ_ne_zero before
  have length := others_made.length_eq
  rw [List.length_map, List.length_range] at length
  refine ⟨sweeps, gap, others, alone, eq, fun piece mem => (within piece mem).occurrenceIndex, ?_, fun piece mem => ?_⟩
  · rcases Nat.eq_zero_or_pos count with none | more
    · exact .inl ⟨closes.mpr (by omega), List.length_eq_zero_iff.mp (by omega)⟩
    · have some : gap ≠ [] := fun none => closes.mp none (by omega)
      obtain ⟨piece, rest, rfl⟩ := List.exists_cons_of_ne_nil some
      obtain rfl : rest = [] := List.length_eq_zero_iff.mp (by simpa using short)
      obtain ⟨pieces, others, rfl⟩ := List.exists_cons_of_length_pos (by omega : 0 < others.length)
      obtain ⟨⟨next, mem⟩, -⟩ := later pieces List.mem_cons_self
      exact .inr ⟨piece, rfl, List.ne_nil_of_mem (List.mem_flatten_of_mem List.mem_cons_self mem)⟩
  · obtain ⟨pieces, there, mem⟩ := List.mem_flatten.mp mem
    exact (later pieces there).2 piece mem

omit [IsStrictOrderedRing K] in
/-- A MEASURE program without its later cycles. -/
theorem oneCycle_measure (made : parts.Made log args gains repeatCount) {schedule : Schedule K}
    (composed : (leadPlan .measure parts.channels parts.pilots parts.guard (parts.cycles.flatten ++ [parts.tail])
      gains.downstreamGainDb).compose false = .ok schedule) :
    ∃ sweeps, measureCycle log parts.woofer parts.tweeter gains.downstreamGainDb 1 0 = .ok sweeps ∧
      oneCycle schedule =
        { phase := .measure
          sampleRateHz := programSampleRateHz
          channels := parts.channels
          segments := place 0 (parts.pilots.getD [] ++ [parts.guard] ++ sweeps ++ [parts.tail])
          totalSamples := span (parts.pilots.getD [] ++ [parts.guard] ++ sweeps ++ [parts.tail]) } := by
  obtain ⟨sweeps, gap, others, alone, eq, once, closes, later⟩ := cycles_eq made
  refine ⟨sweeps, alone, ?_⟩
  have onceSweeps : Once sweeps := fun piece mem => once piece (List.mem_append_left _ mem)
  have lead := ((measurePilots_once made.pilots).append (silence_once made.guard (by decide))).append onceSweeps
  have tail := silence_once made.tail (by decide)
  have laid : schedule = ⟨.measure, programSampleRateHz, parts.channels,
      place 0 (parts.pilots.getD [] ++ [parts.guard] ++ (sweeps ++ gap ++ others.flatten ++ [parts.tail])),
      span (parts.pilots.getD [] ++ [parts.guard] ++ (sweeps ++ gap ++ others.flatten ++ [parts.tail]))⟩ := by
    rw [compose_plain composed, leadPlan_pieces, eq, List.flatten_cons]
    cases parts.pilots <;> rfl
  obtain ⟨rfl, rfl⟩ | ⟨piece, rfl, some⟩ := closes
  · have alike : parts.pilots.getD [] ++ [parts.guard] ++ (sweeps ++ [] ++ [].flatten ++ [parts.tail]) =
        parts.pilots.getD [] ++ [parts.guard] ++ sweeps ++ [parts.tail] := by simp
    rw [alike] at laid
    rw [oneCycle_once (lead.append tail) (by rw [laid]), laid]
  · have split : parts.pilots.getD [] ++ [parts.guard] ++ (sweeps ++ [piece] ++ others.flatten ++ [parts.tail]) =
        (parts.pilots.getD [] ++ [parts.guard] ++ sweeps) ++ piece :: others.flatten ++ [parts.tail] := by simp
    rw [split] at laid
    have gap : Once [piece] := fun other mem => once other (List.mem_append_right _ mem)
    rw [oneCycle_later (by rw [laid]) (lead.append gap) tail later some (by rw [laid]), laid]
    have total : span ((parts.pilots.getD [] ++ [parts.guard] ++ sweeps) ++ piece :: others.flatten ++ [parts.tail]) -
        span (piece :: others.flatten) = span (parts.pilots.getD [] ++ [parts.guard] ++ sweeps ++ [parts.tail]) := by
      simp only [span_append, span_cons]
      omega
    rw [total]

end measure

end Jts.Excitation
