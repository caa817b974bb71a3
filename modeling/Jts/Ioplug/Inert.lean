import Jts.Ioplug.Pace

set_option autoImplicit false

namespace Jts.Ioplug

open Jts.Ring Jts.Shared.Word Jts.Shared.Position Jts.Shared.Bucket

-- The same call with the opt-in off.
def PointerInputs.free (input : PointerInputs) : PointerInputs := { input with paceNominal := false }

def reports (paceNominal : Bool) (g : Geometry) (armNs : UInt64) (inputs : List PointerInputs) : List Nat :=
  positions pointerStep PointerState.position (pointerPrepare paceNominal true armNs (bufferSize g)) inputs

/-- The honest position never gains more on the nominal rate than one buffer, between any two calls. -/
def DevicePaced (g : Geometry) (inputs : List PointerInputs) : Prop :=
  inputs.Pairwise fun earlier later => (later.honest.toNat : Int) - earlier.honest.toNat ≤
    (bufferSize g).toNat + g.rate.toNat * ((later.nowNs.toNat : Int) - earlier.nowNs.toNat) / 1000000000

instance (g : Geometry) (inputs : List PointerInputs) : Decidable (DevicePaced g inputs) :=
  inferInstanceAs (Decidable (List.Pairwise _ _))

-- No call shows more new frames than the clamp lets through at once.
def Unclamped (g : Geometry) : Nat → List PointerInputs → Prop
  | _, [] => True
  | most, input :: inputs => input.honest.toNat - most ≤ (bufferSize g).toNat - g.periodFrames.toNat ∧
      Unclamped g (max most input.honest.toNat) inputs

instance decidableUnclamped (g : Geometry) : (most : Nat) → (inputs : List PointerInputs) →
    Decidable (Unclamped g most inputs)
  | _, [] => inferInstanceAs (Decidable True)
  | most, input :: inputs =>
    have := decidableUnclamped g (max most input.honest.toNat) inputs
    inferInstanceAs (Decidable (_ ∧ _))

/-- What the inputs alone ask of the bucket. A zero reading disarms it, and nothing is asked of it from there on. -/
def charges : Nat → UInt64 → Bool → List PointerInputs → List Charge
  | _, _, _, [] => []
  | most, last, live, input :: inputs =>
    if last = 0 then []
    else ⟨input.readerLive && !live, (paceRefillTokens (saturatingSub input.nowNs last) input.rate).toNat,
      (input.honest.toNat - most) * 1024⟩ ::
        charges (max most input.honest.toNat) input.nowNs input.readerLive inputs

namespace PointerState

def charge (state : PointerState) (input : PointerInputs) : Charge where
  filled := input.readerLive && !state.pacePrevReaderLive
  minted := (state.mintedTokens input).toNat
  paid := (input.honest.toNat - state.lastReported.toNat) * 1024

def charges (state : PointerState) (inputs : List PointerInputs) : List Charge :=
  Jts.Ioplug.charges state.lastReported.toNat state.paceLastNs state.pacePrevReaderLive inputs

theorem charges_cons {state : PointerState} (armed : state.paceLastNs ≠ 0) (input : PointerInputs)
    (inputs : List PointerInputs) : state.charges (input :: inputs) = state.charge input ::
      Jts.Ioplug.charges (max state.lastReported.toNat input.honest.toNat) input.nowNs input.readerLive inputs := by
  rw [charges, Jts.Ioplug.charges, if_neg armed]
  rfl

theorem paceRefill_balance {state : PointerState} {input : PointerInputs} {buffer : UInt64}
    (bucket : BucketOk buffer state) (room : buffer.toNat * 1024 + (state.mintedTokens input).toNat < 2 ^ 64) :
    (state.paceRefill input.nowNs input.rate buffer input.readerLive).paceTokens.toNat =
      (state.charge input).balance (buffer.toNat * 1024) state.paceTokens.toNat := by
  have cap := toNat_paceCap (Nat.lt_of_le_of_lt (Nat.le_add_right _ _) room)
  unfold BucketOk at bucket
  have balance : (state.charge input).balance (buffer.toNat * 1024) state.paceTokens.toNat =
      if (input.readerLive && !state.pacePrevReaderLive) = true then buffer.toNat * 1024
      else min (buffer.toNat * 1024) (state.paceTokens.toNat + (state.mintedTokens input).toNat) := rfl
  rw [balance]
  simp only [paceRefill, mintedTokens] at room ⊢
  generalize paceRefillTokens (state.elapsed input.nowNs) input.rate = minted at room ⊢
  by_cases reattached : (input.readerLive && !state.pacePrevReaderLive) = true
  next =>
    simp only [if_pos reattached]
    split_ifs with full
    next => exact cap
    next =>
      rw [UInt64.lt_iff_toNat_lt, toNat_add_of_lt (by omega), cap] at full
      rw [toNat_add_of_lt (by omega), cap]
      omega
  next =>
    simp only [if_neg reattached]
    split_ifs with full
    all_goals
      rw [UInt64.lt_iff_toNat_lt, toNat_add_of_lt (by omega), cap] at full
    next =>
      rw [cap]
      omega
    next =>
      rw [toNat_add_of_lt (by omega)]
      omega

/-- The governor passes the honest position on exactly when the bucket holds its frames. -/
theorem paceGrant_honest {state : PointerState} {honest dt : UInt64} {period : UInt32} :
    honest.toNat ≤ max state.lastReported.toNat (state.paceGrant honest dt period).2.toNat ↔
      (honest.toNat - state.lastReported.toNat) * 1024 ≤ state.paceTokens.toNat := by
  have pays := state.paceGrant_pays honest dt period
  constructor
  · intro passed
    omega
  · intro covered
    have want := toNat_saturatingSub honest state.lastReported
    have affordable : (state.paceTokens / paceTokensPerFrame).toNat = state.paceTokens.toNat / 1024 := by
      rw [UInt64.toNat_div]
      rfl
    simp only [paceGrant]
    split_ifs with idle enough
    next => exact le_max_right _ _
    next => exact le_max_right _ _
    all_goals
      rw [UInt64.le_iff_toNat_le, want, affordable] at enough
      omega

end PointerState

variable {g : Geometry}

-- Without the opt-in a call only clamps.
theorem free_step {state : PointerState} {input : PointerInputs} (governed : Governed g input) :
    (pointerStep state input.free).position = state.position +
      min (input.honest.toNat - state.position) ((bufferSize g).toNat - g.periodFrames.toNat) := by
  rw [pointerStep, pointerReport_ungoverned (.inl rfl), PointerState.position, PointerState.clamp_toNat]
  exact congrArg₂ (fun size period => state.position + min (input.honest.toNat - state.position) (size - period))
    (congrArg UInt64.toNat governed.sized.1) (congrArg UInt32.toNat governed.sized.2)

theorem disarmed_step {state : PointerState} (disarmed : state.paceLastNs = 0) (input : PointerInputs) :
    (pointerStep state input).position = (pointerStep state input.free).position ∧
      (pointerStep state input).paceLastNs = 0 := by
  rw [pointerStep, pointerStep, pointerReport_ungoverned (.inr disarmed), pointerReport_ungoverned (.inl rfl)]
  exact ⟨rfl, disarmed⟩

theorem free_step_position {first second : PointerState} (same : first.position = second.position)
    (input : PointerInputs) :
    (pointerStep first input.free).position = (pointerStep second input.free).position := by
  have last : first.lastReported = second.lastReported := UInt64.toNat.inj same
  rw [pointerStep, pointerStep, pointerReport_ungoverned (.inl rfl), pointerReport_ungoverned (.inl rfl)]
  simp only [PointerState.clamp, PointerState.position, last]

theorem disarmed_positions {inputs : List PointerInputs} {state other : PointerState}
    (disarmed : state.paceLastNs = 0) (same : state.position = other.position) :
    positions pointerStep PointerState.position state inputs =
      positions pointerStep PointerState.position other (inputs.map PointerInputs.free) := by
  induction inputs generalizing state other with
  | nil => rfl
  | cons input inputs ih =>
    obtain ⟨moved, still⟩ := disarmed_step disarmed input
    have next := moved.trans (free_step_position same input)
    rw [List.map_cons, positions, positions, next, ih still next]

/-- A call that the clamp would not shorten reports as without the governor when the bucket covers its charge, and
otherwise falls behind. -/
theorem governed_step (accepted : g.Accepted) {state other : PointerState} {input : PointerInputs}
    (governed : Governed g input) (bucket : BucketOk (bufferSize g) state) (armed : state.paceLastNs ≠ 0)
    (same : state.position = other.position)
    (unclamped : input.honest.toNat - state.position ≤ (bufferSize g).toNat - g.periodFrames.toNat) :
    ((pointerStep state input).position = (pointerStep other input.free).position ↔
        (state.charge input).paid ≤ (state.charge input).balance (paceCap g) state.paceTokens.toNat) ∧
      ((state.charge input).paid ≤ (state.charge input).balance (paceCap g) state.paceTokens.toNat →
        (pointerStep state input).paceTokens.toNat =
            (state.charge input).balance (paceCap g) state.paceTokens.toNat - (state.charge input).paid ∧
          (pointerStep state input).position = max state.position input.honest.toNat) := by
  have acts : ¬state.ungoverned input := by
    simp [PointerState.ungoverned, governed.nominal, armed]
  let filled := state.paceRefill input.nowNs input.rate input.bufferSize input.readerLive
  have balance : filled.paceTokens.toNat = (state.charge input).balance (paceCap g) state.paceTokens.toNat := by
    have refilled := PointerState.paceRefill_balance bucket (governed_room accepted governed)
    rw [← governed.sized.1] at refilled
    exact refilled.trans (by rw [paceCap, governed.sized.1])
  let granted := filled.paceGrant input.honest (state.elapsed input.nowNs) input.periodFrames
  have last : filled.lastReported = state.lastReported := rfl
  have pays := filled.paceGrant_pays input.honest (state.elapsed input.nowNs) input.periodFrames
  obtain ⟨floor, top⟩ := filled.paceGrant_bounds input.honest (state.elapsed input.nowNs) input.periodFrames
  have passes : input.honest.toNat ≤ max filled.lastReported.toNat granted.2.toNat ↔ _ := PointerState.paceGrant_honest
  have free : (pointerStep other input.free).position = _ := free_step governed
  have clamped : (pointerStep state input).position = state.position +
      min (granted.2.toNat - state.position) ((bufferSize g).toNat - g.periodFrames.toNat) := by
    have moved := PointerState.clamp_toNat granted.1 granted.2 input.bufferSize input.periodFrames
    rw [show granted.1.lastReported = state.lastReported from floor] at moved
    rw [pointerStep, pointerReport_governed acts, ← governed.sized.1, ← governed.sized.2]
    exact moved
  have tokens : (pointerStep state input).paceTokens = granted.1.paceTokens := by
    rw [pointerStep, pointerReport_governed acts, (PointerState.clamp_frame _ _ _ _).1]
  have paid : (state.charge input).paid = (input.honest.toNat - state.position) * 1024 := rfl
  rw [balance, last] at pays passes
  rw [last] at top
  rw [← same] at free
  unfold PointerState.position at *
  rw [tokens, clamped, free, paid]
  change granted.1.paceTokens.toNat + (granted.2.toNat - _) * 1024 = _ at pays
  change granted.2.toNat ≤ _ at top
  rw [← passes]
  constructor
  · omega
  · intro passed
    omega

theorem governed_positions (accepted : g.Accepted) {inputs : List PointerInputs}
    (governed : ∀ input ∈ inputs, Governed g input) {state other : PointerState}
    (bucket : BucketOk (bufferSize g) state) (same : state.position = other.position)
    (unclamped : Unclamped g state.position inputs) :
    positions pointerStep PointerState.position state inputs =
        positions pointerStep PointerState.position other (inputs.map PointerInputs.free) ↔
      Covers (paceCap g) state.paceTokens.toNat (state.charges inputs) := by
  induction inputs generalizing state other with
  | nil => exact iff_of_true rfl trivial
  | cons input inputs ih =>
    by_cases armed : state.paceLastNs = 0
    next =>
      refine iff_of_true (disarmed_positions armed same) ?_
      rw [PointerState.charges, charges, if_pos armed]
      trivial
    next =>
      have here := governed input List.mem_cons_self
      obtain ⟨level, stays⟩ := governed_step accepted here bucket armed same unclamped.1
      obtain ⟨clock, live, -, -⟩ := governed_call accepted here bucket armed
      rw [List.map_cons, positions, positions, List.cons.injEq, level, PointerState.charges_cons armed, Covers]
      apply and_congr_right
      intro covered
      obtain ⟨left, moved⟩ := stays covered
      have rest := ih (fun later among => governed later (List.mem_cons_of_mem input among))
        (pointerReport_bucket accepted.period here.sized bucket (governed_room accepted here))
        (level.mpr covered) (by rw [← pointerStep, moved]; exact unclamped.2)
      rw [PointerState.charges] at rest
      change _ ↔ Covers _ (pointerStep state input).paceTokens.toNat (charges (pointerStep state input).position
        (pointerStep state input).paceLastNs (pointerStep state input).pacePrevReaderLive inputs) at rest
      rw [left, moved, clock, live] at rest
      exact rest

/-- The governor changes no report of a stream that the clamp never shortens exactly when no window of calls that
starts with a full bucket and sees no reattach gains more frames than the bucket and the refills of its calls hold. -/
theorem governor_is_inert_within_its_bucket {g : Geometry} (valid : jtsRingGeometryValidate g = none) (armNs : UInt64)
    {inputs : List PointerInputs} (governed : ∀ input ∈ inputs, Governed g input) (unclamped : Unclamped g 0 inputs) :
    reports true g armNs inputs = reports false g armNs (inputs.map PointerInputs.free) ↔
      Windowed (paceCap g) (charges 0 (if armNs = 0 then 1 else armNs) true inputs) := by
  have accepted := Geometry.jtsRingGeometryValidate_none.mp valid
  have fits : (bufferSize g).toNat * 1024 < 2 ^ 64 := (paceCap_lt accepted).trans (by decide)
  have full : (pointerPrepare true true armNs (bufferSize g)).paceTokens.toNat = paceCap g := toNat_paceCap fits
  have exactly := governed_positions accepted governed (pointerPrepare_bucket fits true true armNs)
    (show _ = (pointerPrepare false true armNs (bufferSize g)).position from rfl) unclamped
  rw [covers_iff, full] at exactly
  exact exactly.trans ⟨And.right, fun windowed => ⟨windowed.affords, windowed⟩⟩

-- A live reader with nothing in flight, so that the honest position is what the application wrote.
def drained (applFrames nowNs : UInt64) : PointerInputs where
  applFrames := applFrames
  occupancySlots := 0
  stageFrames := 0
  periodFrames := 128
  bufferSize := 256
  readerLive := true
  paceNominal := true
  nowNs := nowNs
  rate := 48000

theorem a_steady_stream_stays_within_its_bucket :
    Windowed (paceCap protoGeometry)
      (charges 0 1 true [drained 128 1, drained 256 2666668, drained 384 5333335]) :=
  (governor_is_inert_within_its_bucket (show jtsRingGeometryValidate protoGeometry = none by decide) 1
    (show ∀ input ∈ [drained 128 1, drained 256 2666668, drained 384 5333335], Governed protoGeometry input by decide +kernel)
    (by decide +kernel)).mp (by decide +kernel)

-- One burst of the whole buffer is charged in full while the clamp holds a period of it back.
theorem whole_buffer_burst_is_held_back :
    DevicePaced protoGeometry [drained 0 1, drained 256 2, drained 256 3] ∧
      (∀ input ∈ [drained 0 1, drained 256 2, drained 256 3], Governed protoGeometry input) ∧
        reports true protoGeometry 1 [drained 0 1, drained 256 2, drained 256 3] = [0, 128, 128] ∧
          reports false protoGeometry 1 ([drained 0 1, drained 256 2, drained 256 3].map PointerInputs.free) =
            [0, 128, 256] := by
  decide +kernel

end Jts.Ioplug
