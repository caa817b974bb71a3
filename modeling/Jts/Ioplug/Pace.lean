import Jts.Ioplug.Pointer
import Jts.Shared.Bucket

set_option autoImplicit false

namespace Jts.Ioplug

open Jts.Ring Jts.Shared.Word Jts.Shared.Position Jts.Shared.Bucket

-- The refill of the wire rate on unbounded numbers.
def wireBase (elapsed : Nat) : Nat := elapsed * 49152000 / 1000000000

def wireRefill (elapsed : Nat) : Nat := wireBase elapsed + wireBase elapsed / 400

theorem wireRefill_superadditive : Superadditive wireRefill :=
  (superadditive_rate 49152000 1000000000).headroom 400

/-- The products and sums of one refill, none of which reaches the wrap. -/
structure RefillFits (elapsedNs : UInt64) : Prop where
  scaled : rateHz.toNat * paceTokensPerFrame.toNat < 2 ^ 64
  secs : elapsedNs.toNat / 1000000000 * (rateHz.toNat * paceTokensPerFrame.toNat) < 2 ^ 64
  rest : elapsedNs.toNat % 1000000000 * (rateHz.toNat * paceTokensPerFrame.toNat) < 2 ^ 64
  base : wireBase elapsedNs.toNat < 2 ^ 64
  sum : wireRefill elapsedNs.toNat < 2 ^ 64

theorem refill_fits (elapsedNs : UInt64) : RefillFits elapsedNs := by
  have top := elapsedNs.toNat_lt
  have rate : rateHz.toNat = 48000 := rfl
  have tokens : paceTokensPerFrame.toNat = 1024 := rfl
  constructor <;> simp only [rate, tokens, wireRefill, wireBase] <;> omega

theorem paceRefillTokens_eq (elapsedNs : UInt64) :
    (paceRefillTokens elapsedNs rateHz).toNat = wireRefill elapsedNs.toNat := by
  have top := elapsedNs.toNat_lt
  have billion : (1000000000 : UInt64).toNat = 1000000000 := rfl
  have scaled : (rateHz.toUInt64 * paceTokensPerFrame).toNat = 49152000 := by decide
  have divisor : paceHeadroomDivisor.toNat = 400 := by decide
  have live : rateHz ≠ 0 := by decide
  have whole : (elapsedNs / 1000000000 * (rateHz.toUInt64 * paceTokensPerFrame)).toNat =
      elapsedNs.toNat / 1000000000 * 49152000 := by
    rw [UInt64.toNat_mul, UInt64.toNat_div, billion, scaled]
    omega
  have part : (elapsedNs % 1000000000 * (rateHz.toUInt64 * paceTokensPerFrame) / 1000000000).toNat =
      elapsedNs.toNat % 1000000000 * 49152000 / 1000000000 := by
    rw [UInt64.toNat_div, UInt64.toNat_mul, UInt64.toNat_mod, billion, scaled]
    rw [Nat.mod_eq_of_lt (show elapsedNs.toNat % 1000000000 * 49152000 < 2 ^ 64 by omega)]
  have base : (elapsedNs / 1000000000 * (rateHz.toUInt64 * paceTokensPerFrame) +
      elapsedNs % 1000000000 * (rateHz.toUInt64 * paceTokensPerFrame) / 1000000000).toNat =
      wireBase elapsedNs.toNat := by
    unfold wireBase
    rw [toNat_add_of_lt (by rw [whole, part]; omega), whole, part]
    omega
  have sum := (refill_fits elapsedNs).sum
  unfold wireRefill at sum ⊢
  simp only [paceRefillTokens, if_neg live]
  rw [toNat_add_of_lt (by rw [UInt64.toNat_div, base, divisor]; exact sum), UInt64.toNat_div, base, divisor]

namespace PointerState

-- A spend that the balance covers is exact, product and difference.
theorem toNat_spent {tokens frames : UInt64} (covered : frames.toNat ≤ tokens.toNat / 1024) :
    (frames * paceTokensPerFrame).toNat = frames.toNat * 1024 ∧
      (tokens - frames * paceTokensPerFrame).toNat = tokens.toNat - frames.toNat * 1024 := by
  have top := tokens.toNat_lt
  have product : (frames * paceTokensPerFrame).toNat = frames.toNat * 1024 := toNat_paceCap (by omega)
  exact ⟨product, by rw [toNat_sub_of_le (by omega), product]⟩

-- The balance pays for every frame that the governor lets through.
theorem paceGrant_pays (state : PointerState) (honest dt : UInt64) (period : UInt32) :
    (state.paceGrant honest dt period).1.paceTokens.toNat +
        ((state.paceGrant honest dt period).2.toNat - state.lastReported.toNat) * 1024 = state.paceTokens.toNat := by
  have want := toNat_saturatingSub honest state.lastReported
  have top := honest.toNat_lt
  have affordable : (state.paceTokens / paceTokensPerFrame).toNat = state.paceTokens.toNat / 1024 := by
    rw [UInt64.toNat_div]
    rfl
  simp only [paceGrant]
  split_ifs with idle covered whole
  next =>
    have none_ := congrArg UInt64.toNat idle
    rw [want, UInt64.toNat_zero] at none_
    simp [none_]
  next =>
    rw [UInt64.le_iff_toNat_le, affordable] at covered
    dsimp only
    rw [(toNat_spent covered).2, want]
    omega
  next =>
    rw [UInt64.le_iff_toNat_le, want, affordable] at covered
    have rest : (state.paceTokens / paceTokensPerFrame % period.toUInt64).toNat ≤
        (state.paceTokens / paceTokensPerFrame).toNat := by
      rw [UInt64.toNat_mod]
      exact Nat.mod_le _ _
    have grant := toNat_sub_of_le rest
    dsimp only
    rw [(toNat_spent (by omega)).2, toNat_add_of_lt (by omega), grant]
    omega
  next =>
    rw [UInt64.le_iff_toNat_le, want, affordable] at covered
    dsimp only
    rw [(toNat_spent affordable.le).2, toNat_add_of_lt (by omega)]
    omega

theorem paceGrant_frame (state : PointerState) (honest dt : UInt64) (period : UInt32) :
    (state.paceGrant honest dt period).1.paceLastNs = state.paceLastNs ∧
      (state.paceGrant honest dt period).1.pacePrevReaderLive = state.pacePrevReaderLive := by
  simp only [paceGrant]
  split_ifs <;> exact ⟨rfl, rfl⟩

theorem paceRefill_le {state : PointerState} {nowNs : UInt64} {rate : UInt32} {buffer : UInt64} (readerLive : Bool)
    (bucket : BucketOk buffer state)
    (room : buffer.toNat * 1024 + (paceRefillTokens (state.elapsed nowNs) rate).toNat < 2 ^ 64) :
    (state.paceRefill nowNs rate buffer readerLive).paceTokens.toNat ≤
      (if (readerLive && !state.pacePrevReaderLive) = true then buffer.toNat * 1024 else state.paceTokens.toNat) +
        (paceRefillTokens (state.elapsed nowNs) rate).toNat := by
  have cap := toNat_paceCap (Nat.lt_of_le_of_lt (Nat.le_add_right _ _) room)
  unfold BucketOk at bucket
  simp only [paceRefill]
  split_ifs with reattached full full
  next => rw [cap]; exact Nat.le_add_right _ _
  next => rw [toNat_add_of_lt (by omega), cap]
  next =>
    rw [UInt64.lt_iff_toNat_lt, toNat_add_of_lt (by omega), cap] at full
    rw [cap]
    exact full.le
  next => rw [toNat_add_of_lt (by omega)]

end PointerState

-- What the pointer callback of a governed stream passes at every call.
structure Governed (g : Geometry) (input : PointerInputs) : Prop where
  sized : input.Sized (bufferSize g) g.periodFrames
  nominal : input.paceNominal = true
  rate : input.rate = g.rate

instance (g : Geometry) (input : PointerInputs) : Decidable (Governed g input) :=
  decidable_of_iff (input.Sized (bufferSize g) g.periodFrames ∧ input.paceNominal = true ∧ input.rate = g.rate)
    ⟨fun ⟨sized, nominal, rate⟩ => ⟨sized, nominal, rate⟩, fun governed => ⟨governed.1, governed.2, governed.3⟩⟩

def paceCap (g : Geometry) : Nat := (bufferSize g).toNat * 1024

def pacedRun (g : Geometry) (armNs : UInt64) (inputs : List PointerInputs) : PointerState :=
  inputs.foldl pointerStep (pointerPrepare true true armNs (bufferSize g))

-- The last clock reading, the one of the arm before the first call.
def lastReading (start : UInt64) (inputs : List PointerInputs) : UInt64 :=
  inputs.foldl (fun _ input => input.nowNs) start

def Forwards (start : UInt64) (inputs : List PointerInputs) : Prop :=
  List.IsChain (· ≤ ·) (start.toNat :: inputs.map fun input => input.nowNs.toNat)

instance (start : UInt64) (inputs : List PointerInputs) : Decidable (Forwards start inputs) :=
  inferInstanceAs (Decidable (List.IsChain _ _))

-- The dead-to-live edges that the calls see.
def reattaches : Bool → List PointerInputs → Nat
  | _, [] => 0
  | previous, input :: inputs => (if input.readerLive && !previous then 1 else 0) + reattaches input.readerLive inputs

structure PaceLaw (g : Geometry) (armNs : UInt64) (inputs : List PointerInputs) : Prop where
  balance : ∀ earlier later, inputs = earlier ++ later → (pacedRun g armNs earlier).paceTokens.toNat ≤ paceCap g
  spends : ∀ earlier input later, inputs = earlier ++ input :: later →
    paceCap g + ((pacedRun g armNs earlier).mintedTokens input).toNat < 2 ^ 64 ∧
      (pacedRun g armNs (earlier ++ [input])).paceTokens.toNat ≤
        ((pacedRun g armNs earlier).paceRefill input.nowNs input.rate input.bufferSize
          input.readerLive).paceTokens.toNat
  window : ∀ earlier window later, inputs = earlier ++ window ++ later →
    ((pacedRun g armNs (earlier ++ window)).position - (pacedRun g armNs earlier).position) * 1024 ≤
      (pacedRun g armNs earlier).paceTokens.toNat +
        (paceRefillTokens (lastReading armNs (earlier ++ window) - lastReading armNs earlier) g.rate).toNat +
        paceCap g * reattaches (pacedRun g armNs earlier).pacePrevReaderLive window

namespace PointerState

-- One governed call in the terms of the ledger.
def paceCall (state : PointerState) (input : PointerInputs) : Call where
  elapsed := input.nowNs.toNat - state.paceLastNs.toNat
  filled := input.readerLive && !state.pacePrevReaderLive
  paid := ((pointerStep state input).position - state.position) * 1024

def paceCalls : PointerState → List PointerInputs → List Call
  | _, [] => []
  | state, input :: inputs => state.paceCall input :: paceCalls (pointerStep state input) inputs

end PointerState

theorem paceCap_lt {g : Geometry} (accepted : g.Accepted) : paceCap g < 2 ^ 47 := by
  have slots := accepted.slotsUpper
  have period := g.periodFrames.toNat_lt
  have product : g.nSlots.toNat * g.periodFrames.toNat ≤ 16 * 2 ^ 32 := Nat.mul_le_mul slots period.le
  rw [paceCap, toNat_bufferSize accepted]
  omega

theorem governed_room {g : Geometry} (accepted : g.Accepted) {state : PointerState} {input : PointerInputs}
    (governed : Governed g input) : paceCap g + (state.mintedTokens input).toNat < 2 ^ 64 := by
  have cap := paceCap_lt accepted
  have minted := (state.elapsed input.nowNs).toNat_lt
  rw [PointerState.mintedTokens, governed.rate, accepted.rate, paceRefillTokens_eq]
  unfold wireRefill wireBase
  omega

theorem governed_call {g : Geometry} (accepted : g.Accepted) {state : PointerState} {input : PointerInputs}
    (governed : Governed g input) (bucket : BucketOk (bufferSize g) state) (armed : state.paceLastNs ≠ 0) :
    (pointerStep state input).paceLastNs = input.nowNs ∧
      (pointerStep state input).pacePrevReaderLive = input.readerLive ∧
      (pointerStep state input).paceTokens.toNat ≤
        (state.paceRefill input.nowNs input.rate input.bufferSize input.readerLive).paceTokens.toNat ∧
      (state.paceCall input).Pays (paceCap g) wireRefill state.paceTokens.toNat
        (pointerStep state input).paceTokens.toNat := by
  have room : paceCap g + (state.mintedTokens input).toNat < 2 ^ 64 := governed_room accepted governed
  obtain ⟨⟨size, -⟩, nominal, rate⟩ := governed
  have acts : ¬state.ungoverned input := by
    simp [PointerState.ungoverned, nominal, armed]
  let filled := state.paceRefill input.nowNs input.rate input.bufferSize input.readerLive
  have pays := filled.paceGrant_pays input.honest (state.elapsed input.nowNs) input.periodFrames
  have floor := (filled.paceGrant_bounds input.honest (state.elapsed input.nowNs) input.periodFrames).1
  obtain ⟨clock, live⟩ := filled.paceGrant_frame input.honest (state.elapsed input.nowNs) input.periodFrames
  have moved := PointerState.clamp_toNat (filled.paceGrant input.honest (state.elapsed input.nowNs) input.periodFrames).1
    (filled.paceGrant input.honest (state.elapsed input.nowNs) input.periodFrames).2 input.bufferSize input.periodFrames
  have last : filled.lastReported = state.lastReported := rfl
  have kept : (pointerStep state input).paceTokens =
      (filled.paceGrant input.honest (state.elapsed input.nowNs) input.periodFrames).1.paceTokens := by
    rw [pointerStep, pointerReport_governed acts, (PointerState.clamp_frame _ _ _ _).1]
  have position : (pointerStep state input).position - state.position ≤
      (filled.paceGrant input.honest (state.elapsed input.nowNs) input.periodFrames).2.toNat -
        state.lastReported.toNat := by
    rw [pointerStep, pointerReport_governed acts]
    simp only [PointerState.position]
    rw [moved, floor, last]
    omega
  have refilled := PointerState.paceRefill_le input.readerLive bucket room
  have minted : (paceRefillTokens (state.elapsed input.nowNs) input.rate).toNat =
      wireRefill (input.nowNs.toNat - state.paceLastNs.toNat) := by
    rw [rate, accepted.rate, paceRefillTokens_eq, PointerState.elapsed, toNat_saturatingSub]
  rw [minted, ← size] at refilled
  refine ⟨?_, ?_, ?_, ?_⟩
  next => rw [pointerStep, pointerReport_governed acts, (PointerState.clamp_frame _ _ _ _).2.1]; exact clock
  next => rw [pointerStep, pointerReport_governed acts, (PointerState.clamp_frame _ _ _ _).2.2]; exact live
  next =>
    rw [kept]
    exact (Nat.le_add_right _ _).trans pays.le
  next =>
    unfold Call.Pays
    simp only [PointerState.paceCall, paceCap]
    rw [kept, ← size]
    exact (Nat.add_le_add_left (Nat.mul_le_mul_right 1024 position) _).trans (pays.le.trans refilled)

-- What one stretch of governed calls does, as a ledger of the bucket.
structure Paced (g : Geometry) (state last : PointerState) (inputs : List PointerInputs) : Prop where
  bucket : BucketOk (bufferSize g) last
  armed : last.paceLastNs ≠ 0
  forward : state.position ≤ last.position
  clock : last.paceLastNs = lastReading state.paceLastNs inputs
  later : state.paceLastNs.toNat ≤ last.paceLastNs.toNat
  ledger : Ledger (paceCap g) wireRefill state.paceTokens.toNat (state.paceCalls inputs) last.paceTokens.toNat
  paid : paid (state.paceCalls inputs) = (last.position - state.position) * 1024
  elapsed : elapsed (state.paceCalls inputs) = last.paceLastNs.toNat - state.paceLastNs.toNat
  fills : fills (state.paceCalls inputs) = reattaches state.pacePrevReaderLive inputs

theorem paced {g : Geometry} (accepted : g.Accepted) {inputs : List PointerInputs}
    (governed : ∀ input ∈ inputs, Governed g input) (nonzero : ∀ input ∈ inputs, input.nowNs ≠ 0)
    {state : PointerState} (bucket : BucketOk (bufferSize g) state) (armed : state.paceLastNs ≠ 0)
    (forwards : Forwards state.paceLastNs inputs) : Paced g state (inputs.foldl pointerStep state) inputs := by
  induction inputs generalizing state with
  | nil => exact {
      bucket := bucket
      armed := armed
      forward := le_rfl
      clock := rfl
      later := le_rfl
      ledger := .nil _
      paid := by simp [PointerState.paceCalls]
      elapsed := by simp [PointerState.paceCalls]
      fills := rfl }
  | cons input inputs ih =>
    have here := governed input List.mem_cons_self
    have room : paceCap g + (state.mintedTokens input).toNat < 2 ^ 64 := governed_room accepted here
    obtain ⟨clock, live, -, pays⟩ := governed_call accepted here bucket armed
    have moved := (pointerReport_forward (bufferSize g) g.periodFrames state input here.sized).1
    rw [Forwards, List.map_cons, List.isChain_cons_cons, ← clock] at forwards
    have rest := ih (fun later inside => governed later (List.mem_cons_of_mem input inside))
      (fun later inside => nonzero later (List.mem_cons_of_mem input inside))
      (pointerReport_bucket accepted.period here.sized bucket room)
      (by rw [clock]; exact nonzero input List.mem_cons_self) forwards.2
    have first := forwards.1
    have then_ := rest.later
    have forward := rest.forward
    exact {
      bucket := rest.bucket
      armed := rest.armed
      forward := moved.trans forward
      clock := by rw [List.foldl_cons, rest.clock, clock]; rfl
      later := first.trans then_
      ledger := .cons pays rest.ledger
      paid := by
        rw [PointerState.paceCalls, paid_cons, rest.paid, PointerState.paceCall, ← Nat.add_mul, Nat.add_comm]
        exact congrArg (· * 1024) (Nat.sub_add_sub_cancel forward moved)
      elapsed := by
        rw [PointerState.paceCalls, elapsed_cons, rest.elapsed, PointerState.paceCall, ← clock, Nat.add_comm]
        exact Nat.sub_add_sub_cancel then_ first
      fills := by
        rw [PointerState.paceCalls, fills_cons, rest.fills, live]
        rfl }

theorem lastReading_append (start : UInt64) (earlier window : List PointerInputs) :
    lastReading start (earlier ++ window) = lastReading (lastReading start earlier) window :=
  List.foldl_append

theorem lastReading_mono {low high : UInt64} (le : low.toNat ≤ high.toNat) (inputs : List PointerInputs) :
    (lastReading low inputs).toNat ≤ (lastReading high inputs).toNat := by
  cases inputs with
  | nil => exact le
  | cons input inputs => exact le_rfl

theorem Forwards.append {start : UInt64} {earlier window : List PointerInputs}
    (forwards : Forwards start (earlier ++ window)) :
    Forwards start earlier ∧ Forwards (lastReading start earlier) window := by
  induction earlier generalizing start with
  | nil => exact ⟨List.IsChain.singleton _, forwards⟩
  | cons input earlier ih =>
    unfold Forwards at forwards ⊢
    rw [List.cons_append, List.map_cons, List.isChain_cons_cons] at forwards
    obtain ⟨before, after⟩ := ih forwards.2
    rw [List.map_cons, List.isChain_cons_cons]
    exact ⟨⟨forwards.1, before⟩, after⟩

-- The arm forces its own reading to be nonzero, which no nonzero reading after it notices.
theorem Forwards.armed {armNs : UInt64} {inputs : List PointerInputs} (forwards : Forwards armNs inputs)
    (nonzero : ∀ input ∈ inputs, input.nowNs ≠ 0) : Forwards (if armNs = 0 then 1 else armNs) inputs := by
  split_ifs with zero
  next =>
    cases inputs with
    | nil => exact List.IsChain.singleton _
    | cons input inputs =>
      unfold Forwards at forwards ⊢
      rw [List.map_cons, List.isChain_cons_cons] at forwards ⊢
      have positive : input.nowNs.toNat ≠ 0 :=
        fun none_ => nonzero input List.mem_cons_self (UInt64.toNat.inj none_)
      exact ⟨Nat.one_le_iff_ne_zero.mpr positive, forwards.2⟩
  next => exact forwards

section Run

variable {g : Geometry} {armNs : UInt64} {inputs : List PointerInputs}

theorem paced_run (accepted : g.Accepted) (governed : ∀ input ∈ inputs, Governed g input)
    (forwards : Forwards armNs inputs) (nonzero : ∀ input ∈ inputs, input.nowNs ≠ 0)
    {earlier window later : List PointerInputs} (split : inputs = earlier ++ window ++ later) :
    Paced g (pointerPrepare true true armNs (bufferSize g)) (pacedRun g armNs earlier) earlier ∧
      Paced g (pacedRun g armNs earlier) (pacedRun g armNs (earlier ++ window)) window := by
  subst split
  simp only [List.mem_append] at governed nonzero
  have start : (pointerPrepare true true armNs (bufferSize g)).paceLastNs = if armNs = 0 then 1 else armNs := rfl
  have armed : (pointerPrepare true true armNs (bufferSize g)).paceLastNs ≠ 0 := by
    rw [start]
    split_ifs with zero
    next => decide
    next => exact zero
  have fits : (bufferSize g).toNat * 1024 < 2 ^ 64 := (paceCap_lt accepted).trans (by decide)
  have chain := (forwards.append.1).armed
    (by simp only [List.mem_append]; exact fun input inside => nonzero input (.inl inside))
  obtain ⟨before, after⟩ := chain.append
  have first := paced accepted (fun input inside => governed input (.inl (.inl inside)))
    (fun input inside => nonzero input (.inl (.inl inside)))
    (pointerPrepare_bucket fits true true armNs) armed before
  have second := paced accepted (fun input inside => governed input (.inl (.inr inside)))
    (fun input inside => nonzero input (.inl (.inr inside))) first.bucket first.armed (first.clock ▸ after)
  rw [← List.foldl_append] at second
  exact ⟨first, second⟩

-- The readings bound the time that the bucket saw pass.
theorem paced_elapsed {window : List PointerInputs} {first last : PointerState} (paced : Paced g first last window)
    {start : UInt64} (le : start.toNat ≤ first.paceLastNs.toNat) :
    last.paceLastNs.toNat - first.paceLastNs.toNat ≤ (lastReading start window - start).toNat := by
  have later := paced.later
  cases window with
  | nil =>
    have same : last.paceLastNs = first.paceLastNs := paced.clock
    rw [same, Nat.sub_self]
    exact Nat.zero_le _
  | cons input window =>
    have same : last.paceLastNs = lastReading start (input :: window) := paced.clock
    rw [← same, toNat_sub_of_le (by omega)]
    omega

theorem paceLaw (accepted : g.Accepted) (governed : ∀ input ∈ inputs, Governed g input)
    (forwards : Forwards armNs inputs) (nonzero : ∀ input ∈ inputs, input.nowNs ≠ 0) : PaceLaw g armNs inputs where
  balance earlier later split := by
    obtain ⟨first, -⟩ := paced_run accepted governed forwards nonzero
      (show inputs = earlier ++ [] ++ later by rw [List.append_nil]; exact split)
    exact first.bucket
  spends earlier input later split := by
    have here : Governed g input := governed input (by simp [split])
    obtain ⟨first, -⟩ := paced_run accepted governed forwards nonzero
      (show inputs = earlier ++ [] ++ (input :: later) by rw [List.append_nil]; exact split)
    have spent := (governed_call accepted here first.bucket first.armed).2.2.1
    have appended : pacedRun g armNs (earlier ++ [input]) = pointerStep (pacedRun g armNs earlier) input :=
      List.foldl_append
    rw [appended]
    exact ⟨governed_room accepted here, spent⟩
  window earlier window later split := by
    obtain ⟨first, second⟩ := paced_run accepted governed forwards nonzero split
    have ledger := second.ledger.window wireRefill_superadditive
    rw [second.paid, second.fills, second.elapsed] at ledger
    have start : (lastReading armNs earlier).toNat ≤ (pacedRun g armNs earlier).paceLastNs.toNat := by
      rw [first.clock]
      apply lastReading_mono
      show _ ≤ (if armNs = 0 then (1 : UInt64) else armNs).toNat
      split_ifs with zero
      next => rw [zero, UInt64.toNat_zero]; exact Nat.zero_le _
      next => exact le_rfl
    have seen := wireRefill_superadditive.mono (paced_elapsed second start)
    rw [accepted.rate, paceRefillTokens_eq, lastReading_append]
    omega

end Run

theorem governed_reports_are_paid_for {g : Geometry} (valid : jtsRingGeometryValidate g = none) :
    (∀ elapsedNs, RefillFits elapsedNs ∧
        (paceRefillTokens elapsedNs g.rate).toNat = wireRefill elapsedNs.toNat) ∧
      (bufferSize g * paceTokensPerFrame).toNat = paceCap g ∧
      (∀ first second : UInt64, first.toNat + second.toNat < 2 ^ 64 →
        (paceRefillTokens first g.rate).toNat + (paceRefillTokens second g.rate).toNat ≤
          (paceRefillTokens (first + second) g.rate).toNat) ∧
      ∀ (armNs : UInt64) (inputs : List PointerInputs), (∀ input ∈ inputs, Governed g input) →
        Forwards armNs inputs → (∀ input ∈ inputs, input.nowNs ≠ 0) → PaceLaw g armNs inputs := by
  have accepted := Geometry.jtsRingGeometryValidate_none.mp valid
  refine ⟨?_, ?_, ?_, ?_⟩
  next =>
    intro elapsedNs
    rw [accepted.rate]
    exact ⟨refill_fits elapsedNs, paceRefillTokens_eq elapsedNs⟩
  next => exact toNat_paceCap ((paceCap_lt accepted).trans (by decide))
  next =>
    intro first second fits
    simp only [accepted.rate, paceRefillTokens_eq, toNat_add_of_lt fits]
    exact wireRefill_superadditive _ _
  next =>
    intro armNs inputs governed forwards nonzero
    exact paceLaw accepted governed forwards nonzero

-- A greedy application, on a ring whose reader is alive.
def greedy (nowNs : UInt64) : PointerInputs where
  applFrames := 1000000
  occupancySlots := 0
  stageFrames := 0
  periodFrames := 128
  bufferSize := 256
  readerLive := true
  paceNominal := true
  nowNs := nowNs
  rate := 48000

theorem governed_reports_are_paid_for_by_a_greedy_writer :
    PaceLaw protoGeometry 0 [greedy 1, greedy 1000000, greedy 2000000000] ∧
      (pacedRun protoGeometry 0 [greedy 1, greedy 1000000, greedy 2000000000]).position = 256 := by
  have law := governed_reports_are_paid_for (show jtsRingGeometryValidate protoGeometry = none by decide)
  exact ⟨law.2.2.2 0 _ (by decide) (by decide) (by decide), by decide⟩

-- Two buffers paid for with one: the zero reading of the first report disarms the bucket behind it.
theorem zero_reading_disarms_the_governor :
    (∀ input ∈ [greedy 0, greedy 0, greedy 0, greedy 0], Governed protoGeometry input) ∧
      Forwards 0 [greedy 0, greedy 0, greedy 0, greedy 0] ∧
      ¬PaceLaw protoGeometry 0 [greedy 0, greedy 0, greedy 0, greedy 0] := by
  refine ⟨by decide, by decide, ?_⟩
  intro law
  have window := law.window [] [greedy 0, greedy 0, greedy 0, greedy 0] [] rfl
  revert window
  decide

end Jts.Ioplug
