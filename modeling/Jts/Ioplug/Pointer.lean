import Jts.Ring.Layout
import Jts.Shared.Position

set_option autoImplicit false

namespace Jts.Ioplug

open Jts.Shared.Word Jts.Shared.Position

def paceHeadroomPpm : UInt64 := 2500
def paceHeadroomDivisor : UInt64 := 1000000 / paceHeadroomPpm
def paceTokensPerFrame : UInt64 := 1024

-- The refill is split on the second, so that no product wraps at the wire rate.
def paceRefillTokens (elapsedNs : UInt64) (rate : UInt32) : UInt64 :=
  if rate = 0 then 0
  else
    let secs := elapsedNs / 1000000000
    let remNs := elapsedNs % 1000000000
    let scaled := rate.toUInt64 * paceTokensPerFrame
    let base := secs * scaled + remNs * scaled / 1000000000
    base + base / paceHeadroomDivisor

structure PointerState where
  lastReported : UInt64
  paceLastNs : UInt64
  paceTokens : UInt64
  paceBoundNs : UInt64
  pacePrevReaderLive : Bool
  deriving DecidableEq, Repr

def pointerStateReset : PointerState where
  lastReported := 0
  paceLastNs := 0
  paceTokens := 0
  paceBoundNs := 0
  pacePrevReaderLive := false

def paceArm (state : PointerState) (paceNominal streamIsPlayback : Bool) (nowNs bufferSize : UInt64) :
    PointerState :=
  if !paceNominal || !streamIsPlayback then state
  else
    { state with
      paceLastNs := if nowNs = 0 then 1 else nowNs
      paceTokens := bufferSize * paceTokensPerFrame
      pacePrevReaderLive := true }

def pointerPrepare (paceNominal streamIsPlayback : Bool) (nowNs bufferSize : UInt64) : PointerState :=
  paceArm pointerStateReset paceNominal streamIsPlayback nowNs bufferSize

namespace PointerState

-- A backward clock sample elapses nothing.
def elapsed (state : PointerState) (nowNs : UInt64) : UInt64 := saturatingSub nowNs state.paceLastNs

-- The first half of jts_ring_pace_apply: re-seed on a reattach, refill, cap.
def paceRefill (state : PointerState) (nowNs : UInt64) (rate : UInt32) (bufferSize : UInt64) (readerLive : Bool) :
    PointerState :=
  let cap := bufferSize * paceTokensPerFrame
  let seeded := if readerLive && !state.pacePrevReaderLive then cap else state.paceTokens
  let tokens := seeded + paceRefillTokens (state.elapsed nowNs) rate
  { state with
    paceLastNs := nowNs, pacePrevReaderLive := readerLive, paceTokens := if cap < tokens then cap else tokens }

-- The second half: the whole advance if the bucket covers it, else whole periods of what it covers.
def paceGrant (state : PointerState) (honest dt : UInt64) (periodFrames : UInt32) : PointerState × UInt64 :=
  let want := saturatingSub honest state.lastReported
  if want = 0 then (state, honest)
  else
    let affordable := state.paceTokens / paceTokensPerFrame
    if want ≤ affordable then
      ({ state with paceTokens := state.paceTokens - want * paceTokensPerFrame }, honest)
    else
      let grant := if 0 < periodFrames then affordable - affordable % periodFrames.toUInt64 else affordable
      ({ state with
         paceTokens := state.paceTokens - grant * paceTokensPerFrame, paceBoundNs := state.paceBoundNs + dt },
        state.lastReported + grant)

def paceApply (state : PointerState) (honest : UInt64) (paceNominal : Bool) (nowNs : UInt64) (rate : UInt32)
    (bufferSize : UInt64) (periodFrames : UInt32) (readerLive : Bool) : PointerState × UInt64 :=
  if !paceNominal || state.paceLastNs = 0 then (state, honest)
  else (state.paceRefill nowNs rate bufferSize readerLive).paceGrant honest (state.elapsed nowNs) periodFrames

def clamp (state : PointerState) (honest bufferSize : UInt64) (periodFrames : UInt32) : PointerState × UInt64 :=
  let last := state.lastReported
  let advance := saturatingSub honest last
  let maxAdvance := saturatingSub bufferSize periodFrames.toUInt64
  let reported := last + if maxAdvance < advance then maxAdvance else advance
  ({ state with lastReported := reported }, reported)

end PointerState

-- The hardware constraints leave ALSA one buffer: one period a slot, as many periods as slots.
def bufferSize (g : Jts.Ring.Geometry) : UInt64 := g.nSlots.toUInt64 * g.periodFrames.toUInt64

theorem toNat_bufferSize {g : Jts.Ring.Geometry} (accepted : g.Accepted) : (bufferSize g).toNat = g.nSlots.toNat * g.periodFrames.toNat := by
  have slots := accepted.slotsUpper
  have period := g.periodFrames.toNat_lt
  have product : g.nSlots.toNat * g.periodFrames.toNat ≤ 16 * 2 ^ 32 := Nat.mul_le_mul slots period.le
  rw [bufferSize, UInt64.toNat_mul, UInt32.toNat_toUInt64, UInt32.toNat_toUInt64, Nat.mod_eq_of_lt (by omega)]

structure PointerInputs where
  applFrames : UInt64
  occupancySlots : UInt64
  stageFrames : UInt64
  periodFrames : UInt32
  bufferSize : UInt64
  readerLive : Bool
  paceNominal : Bool
  nowNs : UInt64
  rate : UInt32
  deriving DecidableEq, Repr

-- With no live reader the published slots count as played.
def PointerInputs.honest (input : PointerInputs) : UInt64 :=
  let inFlight :=
    if input.readerLive then input.occupancySlots * input.periodFrames.toUInt64 + input.stageFrames
    else input.stageFrames
  if inFlight ≤ input.applFrames then input.applFrames - inFlight else 0

def pointerReport (state : PointerState) (input : PointerInputs) : PointerState × UInt64 :=
  let paced := state.paceApply input.honest input.paceNominal input.nowNs input.rate input.bufferSize
    input.periodFrames input.readerLive
  paced.1.clamp paced.2 input.bufferSize input.periodFrames

structure CapturePointerInputs where
  applFrames : UInt64
  occupancySlots : UInt64
  destageFrames : UInt64
  pendingSilenceFrames : UInt64
  periodFrames : UInt32
  bufferSize : UInt64
  deriving DecidableEq, Repr

-- What the reader will serve: an out-of-range distance resolves to a resync.
def captureOccupancyBounded (occupancySlots : UInt64) (nSlots : UInt32) : UInt64 :=
  if nSlots.toUInt64 < occupancySlots then 0 else occupancySlots

namespace CapturePointerInputs

def boundedOccupancy (input : CapturePointerInputs) : UInt64 :=
  captureOccupancyBounded input.occupancySlots
    (if 0 < input.periodFrames then (input.bufferSize / input.periodFrames.toUInt64).toUInt32 else 0)

def honest (input : CapturePointerInputs) : UInt64 :=
  input.applFrames + (input.boundedOccupancy * input.periodFrames.toUInt64 + input.destageFrames +
    input.pendingSilenceFrames)

end CapturePointerInputs

def capturePointerReport (state : PointerState) (input : CapturePointerInputs) : PointerState × UInt64 :=
  state.clamp input.honest input.bufferSize input.periodFrames

namespace PointerState

theorem clamp_frame (state : PointerState) (honest bufferSize : UInt64) (periodFrames : UInt32) :
    (state.clamp honest bufferSize periodFrames).1.paceTokens = state.paceTokens ∧
      (state.clamp honest bufferSize periodFrames).1.paceLastNs = state.paceLastNs ∧
        (state.clamp honest bufferSize periodFrames).1.pacePrevReaderLive = state.pacePrevReaderLive :=
  ⟨rfl, rfl, rfl⟩

theorem clamp_toNat (state : PointerState) (honest bufferSize : UInt64) (periodFrames : UInt32) :
    (state.clamp honest bufferSize periodFrames).1.lastReported.toNat =
      state.lastReported.toNat +
        min (honest.toNat - state.lastReported.toNat) (bufferSize.toNat - periodFrames.toNat) := by
  have advance := toNat_saturatingSub honest state.lastReported
  have room := toNat_saturatingSub bufferSize periodFrames.toUInt64
  have top := honest.toNat_lt
  have last := state.lastReported.toNat_lt
  rw [UInt32.toNat_toUInt64] at room
  simp only [clamp]
  split_ifs with clipped
  next =>
    rw [UInt64.lt_iff_toNat_lt, advance, room] at clipped
    rw [toNat_add_of_lt (by omega), room]
    omega
  next =>
    rw [UInt64.lt_iff_toNat_lt, advance, room] at clipped
    rw [toNat_add_of_lt (by omega), advance]
    omega

-- Whatever the bucket holds, pacing never asks for more than the honest position.
theorem paceGrant_bounds (state : PointerState) (honest dt : UInt64) (periodFrames : UInt32) :
    (state.paceGrant honest dt periodFrames).1.lastReported = state.lastReported ∧
      (state.paceGrant honest dt periodFrames).2.toNat ≤ max state.lastReported.toNat honest.toNat := by
  have want := toNat_saturatingSub honest state.lastReported
  have top := honest.toNat_lt
  simp only [paceGrant]
  split_ifs with idle covered period
  next => exact ⟨rfl, le_max_right _ _⟩
  next => exact ⟨rfl, le_max_right _ _⟩
  next =>
    rw [UInt64.le_iff_toNat_le, want] at covered
    have whole : (state.paceTokens / paceTokensPerFrame -
        state.paceTokens / paceTokensPerFrame % periodFrames.toUInt64).toNat ≤
        (state.paceTokens / paceTokensPerFrame).toNat := by
      have rest : (state.paceTokens / paceTokensPerFrame % periodFrames.toUInt64).toNat ≤
          (state.paceTokens / paceTokensPerFrame).toNat := by
        rw [UInt64.toNat_mod]
        exact Nat.mod_le _ _
      rw [toNat_sub_of_le rest]
      exact Nat.sub_le _ _
    exact ⟨rfl, by rw [toNat_add_of_lt (by omega)]; omega⟩
  next =>
    rw [UInt64.le_iff_toNat_le, want] at covered
    exact ⟨rfl, by rw [toNat_add_of_lt (by omega)]; omega⟩

theorem paceApply_bounds (state : PointerState) (honest : UInt64) (paceNominal : Bool) (nowNs : UInt64)
    (rate : UInt32) (bufferSize : UInt64) (periodFrames : UInt32) (readerLive : Bool) :
    (state.paceApply honest paceNominal nowNs rate bufferSize periodFrames readerLive).1.lastReported =
        state.lastReported ∧
      (state.paceApply honest paceNominal nowNs rate bufferSize periodFrames readerLive).2.toNat ≤
        max state.lastReported.toNat honest.toNat := by
  unfold paceApply
  split_ifs with inert
  next => exact ⟨rfl, le_max_right _ _⟩
  next => exact paceGrant_bounds _ honest _ periodFrames

end PointerState

def PointerInputs.Sized (buffer : UInt64) (period : UInt32) (input : PointerInputs) : Prop :=
  input.bufferSize = buffer ∧ input.periodFrames = period

instance (buffer : UInt64) (period : UInt32) (input : PointerInputs) : Decidable (input.Sized buffer period) :=
  inferInstanceAs (Decidable (_ ∧ _))

def CapturePointerInputs.Sized (buffer : UInt64) (period : UInt32) (input : CapturePointerInputs) : Prop :=
  input.bufferSize = buffer ∧ input.periodFrames = period

def PointerState.position (state : PointerState) : Nat := state.lastReported.toNat

theorem pointerReport_forward (buffer : UInt64) (period : UInt32) :
    Forward (fun state input => (pointerReport state input).1) PointerState.position
      (fun input => input.honest.toNat) (buffer.toNat - period.toNat) (PointerInputs.Sized buffer period) := by
  intro state input sized
  obtain ⟨rfl, rfl⟩ := sized
  obtain ⟨same, bound⟩ := state.paceApply_bounds input.honest input.paceNominal input.nowNs input.rate
    input.bufferSize input.periodFrames input.readerLive
  simp only [pointerReport, PointerState.position, PointerState.clamp_toNat, same]
  omega

theorem capturePointerReport_forward (buffer : UInt64) (period : UInt32) :
    Forward (fun state input => (capturePointerReport state input).1) PointerState.position
      (fun input => input.honest.toNat) (buffer.toNat - period.toNat) (CapturePointerInputs.Sized buffer period) := by
  intro state input sized
  obtain ⟨rfl, rfl⟩ := sized
  simp only [capturePointerReport, PointerState.position, PointerState.clamp_toNat]
  omega

def PointerState.mintedTokens (state : PointerState) (input : PointerInputs) : UInt64 :=
  paceRefillTokens (state.elapsed input.nowNs) input.rate

-- The calls on which the governor stands aside.
def PointerState.ungoverned (state : PointerState) (input : PointerInputs) : Prop :=
  input.paceNominal = false ∨ state.paceLastNs = 0

def BucketOk (buffer : UInt64) (state : PointerState) : Prop := state.paceTokens.toNat ≤ buffer.toNat * 1024

theorem toNat_paceCap {buffer : UInt64} (fits : buffer.toNat * 1024 < 2 ^ 64) :
    (buffer * paceTokensPerFrame).toNat = buffer.toNat * 1024 := by
  rw [UInt64.toNat_mul]
  exact Nat.mod_eq_of_lt fits

namespace PointerState

theorem paceRefill_tokens {state : PointerState} {nowNs : UInt64} {rate : UInt32} {buffer : UInt64}
    (readerLive : Bool) (bucket : BucketOk buffer state)
    (room : buffer.toNat * 1024 + (paceRefillTokens (state.elapsed nowNs) rate).toNat < 2 ^ 64) :
    (state.paceRefill nowNs rate buffer readerLive).paceTokens.toNat = buffer.toNat * 1024 ∨
      ((state.paceRefill nowNs rate buffer readerLive).paceTokens.toNat =
          state.paceTokens.toNat + (paceRefillTokens (state.elapsed nowNs) rate).toNat ∧
        (state.paceRefill nowNs rate buffer readerLive).paceTokens.toNat ≤ buffer.toNat * 1024) := by
  simp only [paceRefill]
  generalize paceRefillTokens (state.elapsed nowNs) rate = minted at room ⊢
  have cap := toNat_paceCap (Nat.lt_of_le_of_lt (Nat.le_add_right _ _) room)
  unfold BucketOk at bucket
  split_ifs with reattached full full
  next => exact .inl cap
  next =>
    rw [UInt64.lt_iff_toNat_lt, toNat_add_of_lt (by omega), cap] at full
    rw [toNat_add_of_lt (by omega), cap]
    omega
  next => exact .inl cap
  next =>
    rw [UInt64.lt_iff_toNat_lt, toNat_add_of_lt (by omega), cap] at full
    rw [toNat_add_of_lt (by omega)]
    omega

-- With a period affordable the grant moves; without one it waits and keeps every token.
theorem paceGrant_moves {state : PointerState} {honest : UInt64} (dt : UInt64) {period : UInt32}
    (frames : 0 < period.toNat) (short : state.lastReported.toNat < honest.toNat) :
    (state.lastReported.toNat < (state.paceGrant honest dt period).2.toNat ∧
        (state.paceGrant honest dt period).1.paceTokens.toNat ≤ state.paceTokens.toNat) ∨
      ((state.paceGrant honest dt period).2 = state.lastReported ∧
        (state.paceGrant honest dt period).1.paceTokens = state.paceTokens ∧
        state.paceTokens.toNat < period.toNat * 1024) := by
  have want := toNat_saturatingSub honest state.lastReported
  have top := honest.toNat_lt
  have tokens := state.paceTokens.toNat_lt
  have positive : (0 : UInt32) < period := by rw [UInt32.lt_iff_toNat_lt]; exact frames
  have affordable : (state.paceTokens / paceTokensPerFrame).toNat = state.paceTokens.toNat / 1024 := by
    rw [UInt64.toNat_div]
    rfl
  have rest : (state.paceTokens / paceTokensPerFrame % period.toUInt64).toNat =
      state.paceTokens.toNat / 1024 % period.toNat := by
    rw [UInt64.toNat_mod, affordable, UInt32.toNat_toUInt64]
  have below := Nat.mod_lt (state.paceTokens.toNat / 1024) frames
  have small := Nat.mod_le (state.paceTokens.toNat / 1024) period.toNat
  have spent {frames : UInt64} (le : frames.toNat ≤ state.paceTokens.toNat / 1024) :
      (state.paceTokens - frames * paceTokensPerFrame).toNat = state.paceTokens.toNat - frames.toNat * 1024 := by
    have product : (frames * paceTokensPerFrame).toNat = frames.toNat * 1024 := toNat_paceCap (by omega)
    rw [toNat_sub_of_le (by omega), product]
  simp only [paceGrant, if_pos positive]
  split_ifs with idle covered
  next =>
    have none_ := congrArg UInt64.toNat idle
    rw [want, UInt64.toNat_zero] at none_
    omega
  next =>
    rw [UInt64.le_iff_toNat_le, affordable] at covered
    exact .inl ⟨short, by dsimp only; rw [spent covered]; exact Nat.sub_le _ _⟩
  next =>
    rw [UInt64.le_iff_toNat_le, want, affordable] at covered
    have grant : (state.paceTokens / paceTokensPerFrame -
        state.paceTokens / paceTokensPerFrame % period.toUInt64).toNat =
        state.paceTokens.toNat / 1024 - state.paceTokens.toNat / 1024 % period.toNat := by
      rw [toNat_sub_of_le (by rw [rest, affordable]; exact small), rest, affordable]
    by_cases enough : period.toNat ≤ state.paceTokens.toNat / 1024
    next =>
      refine .inl ⟨?_, ?_⟩
      next =>
        rw [toNat_add_of_lt (by omega), grant]
        omega
      next =>
        dsimp only
        rw [spent (by rw [grant]; exact Nat.sub_le _ _)]
        exact Nat.sub_le _ _
    next =>
      have whole : state.paceTokens.toNat / 1024 % period.toNat = state.paceTokens.toNat / 1024 :=
        Nat.mod_eq_of_lt (by omega)
      have nothing : state.paceTokens / paceTokensPerFrame -
          state.paceTokens / paceTokensPerFrame % period.toUInt64 = 0 := by
        apply UInt64.toNat.inj
        rw [grant, whole, Nat.sub_self, UInt64.toNat_zero]
      simp only [nothing]
      exact .inr ⟨by simp, by simp, by omega⟩

theorem paceGrant_tokens_le (state : PointerState) (honest dt : UInt64) {period : UInt32}
    (frames : 0 < period.toNat) :
    (state.paceGrant honest dt period).1.paceTokens.toNat ≤ state.paceTokens.toNat := by
  by_cases short : state.lastReported.toNat < honest.toNat
  next =>
    rcases paceGrant_moves dt frames short with ⟨-, spent⟩ | ⟨-, same, -⟩
    next => exact spent
    next => rw [same]
  next =>
    have idle : saturatingSub honest state.lastReported = 0 := by
      apply UInt64.toNat.inj
      rw [toNat_saturatingSub, UInt64.toNat_zero]
      omega
    simp [paceGrant, idle]

end PointerState

theorem pointerReport_ungoverned {state : PointerState} {input : PointerInputs} (inert : state.ungoverned input) :
    pointerReport state input = state.clamp input.honest input.bufferSize input.periodFrames := by
  have stands : (!input.paceNominal || decide (state.paceLastNs = 0)) = true := by
    rcases inert with off | unarmed
    next => simp [off]
    next => simp [unarmed]
  simp only [pointerReport, PointerState.paceApply, stands, if_true]

theorem pointerReport_governed {state : PointerState} {input : PointerInputs} (governed : ¬state.ungoverned input) :
    pointerReport state input =
      (((state.paceRefill input.nowNs input.rate input.bufferSize input.readerLive).paceGrant input.honest
        (state.elapsed input.nowNs) input.periodFrames).1.clamp
        ((state.paceRefill input.nowNs input.rate input.bufferSize input.readerLive).paceGrant input.honest
          (state.elapsed input.nowNs) input.periodFrames).2 input.bufferSize input.periodFrames) := by
  have acts : (!input.paceNominal || decide (state.paceLastNs = 0)) = false := by
    simpa [PointerState.ungoverned, not_or] using governed
  simp only [pointerReport, PointerState.paceApply, acts, Bool.false_eq_true, if_false]

theorem pointerReport_bucket {buffer : UInt64} {period : UInt32} (frames : 0 < period.toNat) {state : PointerState}
    {input : PointerInputs} (sized : input.Sized buffer period) (bucket : BucketOk buffer state)
    (room : buffer.toNat * 1024 + (state.mintedTokens input).toNat < 2 ^ 64) :
    BucketOk buffer (pointerReport state input).1 := by
  obtain ⟨rfl, rfl⟩ := sized
  by_cases inert : state.ungoverned input
  next =>
    rw [pointerReport_ungoverned inert]
    exact bucket
  next =>
    rw [pointerReport_governed inert, BucketOk, (PointerState.clamp_frame _ _ _ _).1]
    have kept := (state.paceRefill input.nowNs input.rate input.bufferSize input.readerLive).paceGrant_tokens_le
      input.honest (state.elapsed input.nowNs) frames
    apply kept.trans
    rcases PointerState.paceRefill_tokens input.readerLive bucket room with full | ⟨-, capped⟩
    next => exact full.le
    next => exact capped

theorem pointerReport_moves {buffer : UInt64} {period : UInt32} (frames : 0 < period.toNat)
    (slots : 2 * period.toNat ≤ buffer.toNat) {state : PointerState} {input : PointerInputs}
    (sized : input.Sized buffer period) (short : state.position < input.honest.toNat) (bucket : BucketOk buffer state)
    (room : buffer.toNat * 1024 + (state.mintedTokens input).toNat < 2 ^ 64) :
    state.position < (pointerReport state input).1.position ∨
      ((pointerReport state input).1.position = state.position ∧
        (pointerReport state input).1.paceTokens.toNat = state.paceTokens.toNat + (state.mintedTokens input).toNat ∧
        (pointerReport state input).1.paceTokens.toNat < period.toNat * 1024 ∧ ¬state.ungoverned input) := by
  obtain ⟨rfl, rfl⟩ := sized
  unfold PointerState.position at short ⊢
  by_cases inert : state.ungoverned input
  next =>
    rw [pointerReport_ungoverned inert, PointerState.clamp_toNat]
    exact .inl (by omega)
  next =>
    have refilled := PointerState.paceRefill_tokens input.readerLive bucket room
    have granted := PointerState.paceGrant_moves (state.elapsed input.nowNs) frames
      (show (state.paceRefill input.nowNs input.rate input.bufferSize input.readerLive).lastReported.toNat <
        input.honest.toNat from short)
    have floor := (PointerState.paceGrant_bounds
      (state.paceRefill input.nowNs input.rate input.bufferSize input.readerLive) input.honest
      (state.elapsed input.nowNs) input.periodFrames).1
    rw [pointerReport_governed inert, PointerState.clamp_toNat, floor]
    rcases granted with ⟨moved, -⟩ | ⟨waits, same, poor⟩
    next =>
      have below : state.lastReported.toNat < _ := moved
      exact .inl (by dsimp only [PointerState.paceRefill] at below ⊢; omega)
    next =>
      rw [waits]
      refine .inr ⟨by simp [PointerState.paceRefill], ?_, ?_, inert⟩
      next =>
        simp only [PointerState.clamp, same]
        rcases refilled with full | ⟨saved, -⟩
        next => rw [full] at poor; omega
        next => exact saved
      next => simpa only [PointerState.clamp, same] using poor

abbrev pointerStep (state : PointerState) (input : PointerInputs) : PointerState := (pointerReport state input).1

abbrev captureStep (state : PointerState) (input : CapturePointerInputs) : PointerState :=
  (capturePointerReport state input).1

theorem pointerPrepare_position (paceNominal playback : Bool) (nowNs buffer : UInt64) :
    (pointerPrepare paceNominal playback nowNs buffer).position = 0 := by
  unfold pointerPrepare paceArm
  split_ifs <;> rfl

theorem pointerPrepare_bucket {buffer : UInt64} (fits : buffer.toNat * 1024 < 2 ^ 64) (paceNominal playback : Bool)
    (nowNs : UInt64) : BucketOk buffer (pointerPrepare paceNominal playback nowNs buffer) := by
  unfold pointerPrepare paceArm BucketOk
  split_ifs
  next => exact Nat.zero_le _
  all_goals exact (toNat_paceCap fits).le

theorem pointerReport_settles {buffer : UInt64} {period : UInt32} {first : PointerState} {inputs : Nat → PointerInputs}
    (sized : ∀ call, (inputs call).Sized buffer period) {since target : Nat}
    (still : ∀ call, since ≤ call → (inputs call).honest.toNat = target)
    (moves : ∀ call, (iterate pointerStep first inputs (since + call)).position < target → ∃ later,
      (iterate pointerStep first inputs (since + call)).position <
        (iterate pointerStep first inputs (since + later)).position) :
    Settles (fun call => (iterate pointerStep first inputs call).position) since target := by
  apply settles _ moves
  intro call
  have moved := pointerReport_forward buffer period (iterate pointerStep first inputs (since + call))
    (inputs (since + call)) (sized _)
  have honest := still (since + call) (Nat.le_add_right _ _)
  exact ⟨moved.1, honest ▸ moved.2.2⟩

theorem capture_settles {buffer : UInt64} {period : UInt32} (frames : 0 < period.toNat)
    (slots : 2 * period.toNat ≤ buffer.toNat) (first : PointerState) {inputs : Nat → CapturePointerInputs}
    (sized : ∀ call, (inputs call).Sized buffer period) {since target : Nat}
    (still : ∀ call, since ≤ call → (inputs call).honest.toNat = target) :
    Settles (fun call => (iterate captureStep first inputs call).position) since target := by
  apply settles
  next =>
    intro call
    have moved := capturePointerReport_forward buffer period (iterate captureStep first inputs (since + call))
      (inputs (since + call)) (sized _)
    have honest := still (since + call) (Nat.le_add_right _ _)
    exact ⟨moved.1, honest ▸ moved.2.2⟩
  next =>
    intro call short
    have honest := still (since + call) (Nat.le_add_right _ _)
    refine ⟨call + 1, ?_⟩
    show _ < (capturePointerReport (iterate captureStep first inputs (since + call)) (inputs (since + call))).1.position
    simp only [capturePointerReport, PointerState.position, PointerState.clamp_toNat, (sized _).1, (sized _).2]
    unfold PointerState.position at short
    omega

theorem ungoverned_settles {buffer : UInt64} {period : UInt32} (frames : 0 < period.toNat)
    (slots : 2 * period.toNat ≤ buffer.toNat) (first : PointerState) {inputs : Nat → PointerInputs}
    (sized : ∀ call, (inputs call).Sized buffer period) (off : ∀ call, (inputs call).paceNominal = false)
    {since target : Nat} (still : ∀ call, since ≤ call → (inputs call).honest.toNat = target) :
    Settles (fun call => (iterate pointerStep first inputs call).position) since target := by
  apply pointerReport_settles sized still
  intro call short
  have honest := still (since + call) (Nat.le_add_right _ _)
  refine ⟨call + 1, ?_⟩
  show _ < (pointerReport (iterate pointerStep first inputs (since + call)) (inputs (since + call))).1.position
  rw [pointerReport_ungoverned (.inl (off _))]
  simp only [PointerState.position, PointerState.clamp_toNat, (sized _).1, (sized _).2]
  unfold PointerState.position at short
  omega

-- The bucket never overflows at the call, and the governor stands aside or mints at least one token.
def Mints (buffer : UInt64) (first : PointerState) (inputs : Nat → PointerInputs) : Prop :=
  (∀ call, buffer.toNat * 1024 + ((iterate pointerStep first inputs call).mintedTokens (inputs call)).toNat < 2 ^ 64) ∧
    ∀ call, ∃ later, call ≤ later ∧ ((iterate pointerStep first inputs later).ungoverned (inputs later) ∨
      1 ≤ ((iterate pointerStep first inputs later).mintedTokens (inputs later)).toNat)

theorem governed_settles {buffer : UInt64} {period : UInt32} (frames : 0 < period.toNat)
    (slots : 2 * period.toNat ≤ buffer.toNat) {first : PointerState} (bucket : BucketOk buffer first)
    {inputs : Nat → PointerInputs} (sized : ∀ call, (inputs call).Sized buffer period)
    (mints : Mints buffer first inputs) {since target : Nat}
    (still : ∀ call, since ≤ call → (inputs call).honest.toNat = target) :
    Settles (fun call => (iterate pointerStep first inputs call).position) since target := by
  obtain ⟨room, paid⟩ := mints
  have buckets : ∀ call, BucketOk buffer (iterate pointerStep first inputs call) := by
    intro call
    induction call with
    | zero => exact bucket
    | succ call ih => exact pointerReport_bucket frames (sized call) ih (room call)
  apply pointerReport_settles sized still
  let state (call : Nat) : PointerState := iterate pointerStep first inputs (since + call)
  let minted (call : Nat) : Nat := ((state call).mintedTokens (inputs (since + call))).toNat
  have moves : ∀ call, (state call).position < target → (state call).position < (state (call + 1)).position ∨
      ((state (call + 1)).position = (state call).position ∧
        (state (call + 1)).paceTokens.toNat = (state call).paceTokens.toNat + minted call ∧
        (state (call + 1)).paceTokens.toNat < period.toNat * 1024 ∧
        ¬(state call).ungoverned (inputs (since + call))) := by
    intro call short
    rw [← still (since + call) (Nat.le_add_right _ _)] at short
    exact pointerReport_moves frames slots (sized _) short (buckets _) (room _)
  have pays : ∀ call, ∃ later, call ≤ later ∧
      ((state later).ungoverned (inputs (since + later)) ∨ 1 ≤ minted later) := by
    intro call
    obtain ⟨later, le, payment⟩ := paid (since + call)
    refine ⟨later - since, by omega, ?_⟩
    simpa only [state, minted, show since + (later - since) = later by omega] using payment
  exact moves_of_savings (fun call => (state call).position) (fun call => (state call).paceTokens.toNat) minted
    (fun call => (state call).ungoverned (inputs (since + call))) moves pays

theorem pointer_reports_never_alias {nSlots : Nat} {period : UInt32} {buffer : UInt64} (slots : 2 ≤ nSlots)
    (frames : 0 < period.toNat) (size : buffer.toNat = nSlots * period.toNat) :
    (∀ paceNominal playback nowNs (inputs : List PointerInputs), (∀ input ∈ inputs, input.Sized buffer period) →
        Faithful (fun input => input.honest.toNat) buffer.toNat (buffer.toNat - period.toNat) inputs
          (positions pointerStep PointerState.position (pointerPrepare paceNominal playback nowNs buffer) inputs)) ∧
      (∀ paceNominal playback nowNs (inputs : List CapturePointerInputs),
        (∀ input ∈ inputs, input.Sized buffer period) →
        Faithful (fun input => input.honest.toNat) buffer.toNat (buffer.toNat - period.toNat) inputs
          (positions captureStep PointerState.position (pointerPrepare paceNominal playback nowNs buffer) inputs)) ∧
      (∀ paceNominal playback nowNs (inputs : Nat → PointerInputs) (since target : Nat),
        (∀ call, (inputs call).Sized buffer period) → (∀ call, since ≤ call → (inputs call).honest.toNat = target) →
        (∀ call, (inputs call).paceNominal = false) ∨
          Mints buffer (pointerPrepare paceNominal playback nowNs buffer) inputs →
        Settles (fun call =>
          (iterate pointerStep (pointerPrepare paceNominal playback nowNs buffer) inputs call).position) since target) ∧
      ∀ paceNominal playback nowNs (inputs : Nat → CapturePointerInputs) (since target : Nat),
        (∀ call, (inputs call).Sized buffer period) → (∀ call, since ≤ call → (inputs call).honest.toNat = target) →
        Settles (fun call =>
          (iterate captureStep (pointerPrepare paceNominal playback nowNs buffer) inputs call).position)
          since target := by
  have wide : 2 * period.toNat ≤ buffer.toNat := by
    rw [size]
    exact Nat.mul_le_mul_right _ slots
  have small : buffer.toNat - period.toNat < buffer.toNat := by omega
  refine ⟨?_, ?_, ?_, ?_⟩
  next =>
    intro paceNominal playback nowNs inputs sized
    exact (pointerReport_forward buffer period).faithful small (pointerPrepare_position _ _ _ _) sized
  next =>
    intro paceNominal playback nowNs inputs sized
    exact (capturePointerReport_forward buffer period).faithful small (pointerPrepare_position _ _ _ _) sized
  next =>
    intro paceNominal playback nowNs inputs since target sized still pace
    rcases pace with off | mints
    next => exact ungoverned_settles frames wide _ sized off still
    next =>
      have fits : buffer.toNat * 1024 < 2 ^ 64 := Nat.lt_of_le_of_lt (Nat.le_add_right _ _) (mints.1 0)
      exact governed_settles frames wide (pointerPrepare_bucket fits paceNominal playback nowNs) sized mints still
  next =>
    intro paceNominal playback nowNs inputs since target sized still
    exact capture_settles frames wide _ sized still

def deadReader (applFrames stageFrames : UInt64) : PointerInputs where
  applFrames := applFrames
  occupancySlots := 0
  stageFrames := stageFrames
  periodFrames := 128
  bufferSize := 256
  readerLive := false
  paceNominal := false
  nowNs := 0
  rate := Jts.Ring.rateHz

-- Three hundred frames at once: two calls to cross the buffer, and no way back afterwards.
theorem pointer_reports_never_alias_at_a_catch_up :
    Faithful (fun input => input.honest.toNat) 256 128 [deadReader 300 0, deadReader 300 0, deadReader 300 0]
        [128, 256, 300] ∧
      Settles (fun call => (iterate pointerStep (pointerPrepare false true 0 256) (fun _ => deadReader 300 0)
        call).position) 0 300 := by
  have law := pointer_reports_never_alias le_rfl (show 0 < (128 : UInt32).toNat by decide)
    (show (256 : UInt64).toNat = 2 * (128 : UInt32).toNat by decide)
  have reported : positions pointerStep PointerState.position (pointerPrepare false true 0 256)
      [deadReader 300 0, deadReader 300 0, deadReader 300 0] = [128, 256, 300] := by decide
  refine ⟨reported ▸ law.1 false true 0 _ (by decide), ?_⟩
  exact law.2.2.1 false true 0 (fun _ => deadReader 300 0) 0 300 (fun _ => ⟨rfl, rfl⟩) (fun _ _ => rfl)
    (.inl fun _ => rfl)

-- Ten buffers accepted by a governed stream whose clock stands still.
def frozenClock : PointerInputs where
  applFrames := 2560
  occupancySlots := 0
  stageFrames := 0
  periodFrames := 128
  bufferSize := 256
  readerLive := true
  paceNominal := true
  nowNs := 1
  rate := Jts.Ring.rateHz

def backwardsAfterOne (call : Nat) : PointerInputs := if call = 0 then deadReader 10 0 else deadReader 10 5

theorem iterate_fixed {state first : PointerState} {inputs : Nat → PointerInputs}
    (once : pointerStep first (inputs 0) = state) (fixed : ∀ call, 1 ≤ call → pointerStep state (inputs call) = state)
    (call : Nat) : iterate pointerStep first inputs (call + 1) = state := by
  induction call with
  | zero => exact once
  | succ call ih =>
    rw [iterate, ih]
    exact fixed (call + 1) (Nat.le_add_left 1 call)

def emptyBucket : PointerState where
  lastReported := 128
  paceLastNs := 1
  paceTokens := 0
  paceBoundNs := 0
  pacePrevReaderLive := true

theorem frozenClock_first : pointerStep (pointerPrepare true true 1 256) frozenClock = emptyBucket := by decide

theorem frozenClock_stands : pointerStep emptyBucket frozenClock = emptyBucket := by decide

-- A report is not taken back when the honest position falls, and an empty bucket holds it short of a higher one.
theorem reports_that_never_reach_the_honest_position :
    (∃ inputs : Nat → PointerInputs, (∀ call, (inputs call).Sized 256 128) ∧
        (∀ call, 1 ≤ call → (inputs call).honest = 5) ∧
        ∀ call, 1 ≤ call → (iterate pointerStep (pointerPrepare false true 0 256) inputs call).position ≠ 5) ∧
      ∃ inputs : Nat → PointerInputs, (∀ call, (inputs call).Sized 256 128) ∧
        (∀ call, (inputs call).honest = 2560) ∧
        ∀ call, (iterate pointerStep (pointerPrepare true true 1 256) inputs call).position < 2560 := by
  have shown : frozenClock.honest = 2560 := by decide
  refine ⟨⟨backwardsAfterOne, ?_, ?_, ?_⟩, ⟨fun _ => frozenClock, fun _ => ⟨rfl, rfl⟩, fun _ => shown, ?_⟩⟩
  next =>
    intro call
    unfold backwardsAfterOne
    split_ifs <;> decide
  next =>
    intro call later
    rw [backwardsAfterOne, if_neg (by omega)]
    decide
  next =>
    intro call later
    obtain ⟨call, rfl⟩ := Nat.exists_eq_add_of_le' later
    have held := iterate_fixed (show pointerStep (pointerPrepare false true 0 256) (backwardsAfterOne 0) =
      { pointerStateReset with lastReported := 10 } by decide)
      (fun call later => by rw [backwardsAfterOne, if_neg (by omega)]; decide) call
    rw [held]
    decide
  next =>
    intro call
    cases call with
    | zero => decide
    | succ call =>
      have held : iterate pointerStep (pointerPrepare true true 1 256) (fun _ => frozenClock) (call + 1) =
          emptyBucket := by
        apply iterate_fixed
        next => exact frozenClock_first
        next => exact fun _ _ => frozenClock_stands
      rw [held]
      decide

end Jts.Ioplug
