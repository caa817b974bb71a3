import Jts.Fanin.Cushion
import Jts.Shared.Circular
import Mathlib.Algebra.BigOperators.Group.List.Basic

set_option autoImplicit false

namespace Jts.Fanin

open Jts.Shared.Circular (Window)

def taps : ℕ := radiusFrames * 2 + 1

def phases : ℕ := 2048

inductive RingError
  | zeroCapacity
  | zeroChannels
  | capacityOverflow
deriving DecidableEq, Repr

def RingError.text : RingError → String
  | .zeroCapacity => "audio ring capacity must be > 0"
  | .zeroChannels => "audio ring channel count must be > 0"
  | .capacityOverflow => "audio ring sample capacity overflow"

/-- Interleaved frames, a slot each, addressed by counters that only grow. -/
structure AudioRing where
  slots : ℕ → List ℤ
  channels : ℕ
  capacityFrames : ℕ
  readFrame : ℕ
  writeFrame : ℕ
  holds : 0 < capacityFrames
  ordered : readFrame ≤ writeFrame
  within : writeFrame ≤ readFrame + capacityFrames

namespace AudioRing

def new (capacityFrames channels : ℕ) : Except RingError AudioRing :=
  if positive : capacityFrames = 0 then .error .zeroCapacity
  else if channels = 0 then .error .zeroChannels
  else if 2 ^ 64 ≤ capacityFrames * channels then .error .capacityOverflow
  else .ok
    { slots := fun _ => List.replicate channels 0
      channels := channels
      capacityFrames := capacityFrames
      readFrame := 0
      writeFrame := 0
      holds := Nat.pos_of_ne_zero positive
      ordered := le_rfl
      within := Nat.zero_le _ }

variable (ring : AudioRing)

def fillFrames : ℕ := ring.writeFrame - ring.readFrame

-- The oldest frame makes room in a full ring.
def oldest : ℕ := if ring.fillFrames = ring.capacityFrames then ring.readFrame + 1 else ring.readFrame

theorem oldest_bounds : ring.readFrame ≤ ring.oldest ∧ ring.oldest ≤ ring.writeFrame ∧
    ring.writeFrame + 1 ≤ ring.oldest + ring.capacityFrames := by
  have := ring.holds
  have := ring.ordered
  have := ring.within
  rw [oldest, fillFrames]
  split <;> omega

def pushFrame (frame : List ℤ) : AudioRing where
  slots := Function.update ring.slots (ring.writeFrame % ring.capacityFrames) frame
  channels := ring.channels
  capacityFrames := ring.capacityFrames
  readFrame := ring.oldest
  writeFrame := ring.writeFrame + 1
  holds := ring.holds
  ordered := Nat.le_succ_of_le ring.oldest_bounds.2.1
  within := ring.oldest_bounds.2.2

-- The ring after one more frame, and how many frames were dropped for it and for those before.
def pushCounted (pushed : AudioRing × ℕ) (frame : List ℤ) : AudioRing × ℕ :=
  (pushed.1.pushFrame frame, if pushed.1.fillFrames = pushed.1.capacityFrames then pushed.2 + 1 else pushed.2)

def framesOf (channels : ℕ) (samples : List ℤ) : List (List ℤ) :=
  (List.range (samples.length / channels)).map fun frame => (samples.drop (frame * channels)).take channels

/-- The ring with more samples in it, and how many frames overran. -/
def pushInterleaved (samples : List ℤ) : AudioRing × ℕ :=
  (framesOf ring.channels samples).foldl pushCounted (ring, 0)

def clear : AudioRing where
  slots := ring.slots
  channels := ring.channels
  capacityFrames := ring.capacityFrames
  readFrame := ring.writeFrame
  writeFrame := ring.writeFrame
  holds := ring.holds
  ordered := le_rfl
  within := Nat.le_add_right _ _

def dropBefore (frame : ℤ) : AudioRing where
  slots := ring.slots
  channels := ring.channels
  capacityFrames := ring.capacityFrames
  readFrame := if frame ≤ 0 then ring.readFrame
    else if ring.readFrame < frame.toNat then min frame.toNat ring.writeFrame else ring.readFrame
  writeFrame := ring.writeFrame
  holds := ring.holds
  ordered := by
    have := ring.ordered
    split
    · exact this
    split <;> omega
  within := by
    have := ring.within
    split
    · exact this
    split <;> omega

def sample (frame : ℤ) (channel : ℕ) : ℤ :=
  if frame < 0 then 0
  else if frame.toNat < ring.readFrame ∨ ring.writeFrame ≤ frame.toNat then 0
  else (ring.slots (frame.toNat % ring.capacityFrames)).getD channel 0

/-- The frames that the ring gives back; it reads as zero outside of them. -/
def Live (frame : ℤ) : Prop := (ring.readFrame : ℤ) ≤ frame ∧ frame < ring.writeFrame

instance (frame : ℤ) : Decidable (ring.Live frame) := inferInstanceAs (Decidable (_ ∧ _))

end AudioRing

/-- The frames under the kernel that stands at a position. -/
def kernelFrames (pos : ℚ) : List ℤ := (List.range taps).map fun (tap : ℕ) => ⌊pos⌋ + ((tap : ℤ) - radiusFrames)

def phaseOf (pos : ℚ) : ℕ := min ⌊(pos - ⌊pos⌋) * phases⌋₊ (phases - 1)

/-- The coefficients of the kernel, a row for each phase. -/
abbrev SincTable := ℕ → List ℚ

def SincTable.interpolate (table : SincTable) (ring : AudioRing) (pos : ℚ) (channel : ℕ) : ℚ :=
  (List.zipWith (fun frame coeff => (ring.sample frame channel : ℚ) * coeff) (kernelFrames pos) (table (phaseOf pos))).sum

/-- Rounded half away from zero. -/
def round (value : ℚ) : ℤ := if 0 ≤ value then ⌊value + 1 / 2⌋ else ⌈value - 1 / 2⌉

def clampI32 (value : ℚ) : ℤ := max (-2147483648) (min (round value) 2147483647)

theorem mem_kernelFrames {pos : ℚ} {frame : ℤ} (tapped : frame ∈ kernelFrames pos) :
    ⌊pos⌋ - radiusFrames ≤ frame ∧ frame ≤ ⌊pos⌋ + radiusFrames := by
  obtain ⟨tap, inside, rfl⟩ := List.mem_map.mp tapped
  have inside : tap < radiusFrames * 2 + 1 := List.mem_range.mp inside
  omega

namespace AudioRing

variable (ring : AudioRing)

-- A cursor with the kernel's radius on both of its sides.
theorem live_of_between {ring : AudioRing} {pos : ℚ} (left : (ring.readFrame : ℤ) + radiusFrames ≤ ⌊pos⌋)
    (right : pos + radiusFrames < ring.writeFrame) {frame : ℤ} (tapped : frame ∈ kernelFrames pos) : ring.Live frame := by
  obtain ⟨low, high⟩ := mem_kernelFrames tapped
  have floor : ⌊pos⌋ + radiusFrames < (ring.writeFrame : ℤ) := by
    have below : ((⌊pos⌋ + radiusFrames : ℤ) : ℚ) < (ring.writeFrame : ℤ) := by
      push_cast
      linarith [Int.floor_le pos]
    exact_mod_cast below
  exact ⟨by omega, by omega⟩

theorem dropBefore_readFrame_le {frame : ℤ} (ahead : (ring.readFrame : ℤ) ≤ frame) :
    ((ring.dropBefore frame).readFrame : ℤ) ≤ frame := by
  rw [dropBefore]
  dsimp only
  split
  · exact ahead
  · split <;> omega

@[simp] theorem dropBefore_writeFrame (frame : ℤ) : (ring.dropBefore frame).writeFrame = ring.writeFrame := rfl

theorem pushCounted_dropped (pushed : AudioRing × ℕ) (frame : List ℤ) : pushed.2 ≤ (pushCounted pushed frame).2 := by
  rw [pushCounted]
  dsimp only
  split
  · exact Nat.le_succ _
  · exact le_rfl

theorem pushed_dropped (frames : List (List ℤ)) (pushed : AudioRing × ℕ) : pushed.2 ≤ (frames.foldl pushCounted pushed).2 := by
  induction frames generalizing pushed with
  | nil => exact le_rfl
  | cons frame frames ih => exact (pushCounted_dropped pushed frame).trans (ih _)

-- Without a drop the read end stays where it was.
theorem pushed_readFrame {frames : List (List ℤ)} {pushed : AudioRing × ℕ} (kept : (frames.foldl pushCounted pushed).2 = pushed.2) :
    (frames.foldl pushCounted pushed).1.readFrame = pushed.1.readFrame ∧
      (frames.foldl pushCounted pushed).1.writeFrame = pushed.1.writeFrame + frames.length := by
  induction frames generalizing pushed with
  | nil => exact ⟨rfl, rfl⟩
  | cons frame frames ih =>
    have first : (pushCounted pushed frame).2 = pushed.2 :=
      le_antisymm ((pushed_dropped frames _).trans kept.le) (pushCounted_dropped pushed frame)
    have room : pushed.1.fillFrames ≠ pushed.1.capacityFrames := by
      intro full
      rw [pushCounted, full] at first
      simp at first
    obtain ⟨read, write⟩ := ih (kept.trans first.symm)
    refine ⟨read.trans (if_neg room), write.trans ?_⟩
    rw [List.length_cons]
    show pushed.1.writeFrame + 1 + frames.length = _
    omega

/-- The live frames of the ring are the last of all that was ever pushed. -/
structure Records (ring : AudioRing) (history : List (List ℤ)) : Prop where
  length : history.length = ring.writeFrame
  window : Window ring.capacityFrames ring.slots (fun frame => history.getD frame []) ring.readFrame ring.writeFrame

namespace Records

variable {ring : AudioRing} {history : List (List ℤ)}

theorem clear (records : ring.Records history) : ring.clear.Records history := ⟨records.length, .empty⟩

theorem dropBefore (records : ring.Records history) (frame : ℤ) : (ring.dropBefore frame).Records history := by
  refine ⟨records.length, records.window.advance ?_⟩
  rw [AudioRing.dropBefore]
  dsimp only
  split
  · exact le_rfl
  · split
    next ahead => exact le_min ahead.le ring.ordered
    next => exact le_rfl

theorem pushFrame (records : ring.Records history) (frame : List ℤ) : (ring.pushFrame frame).Records (history ++ [frame]) := by
  have kept := records.window.advance ring.oldest_bounds.1
  have stored := kept.store ring.oldest_bounds.2.2 frame
  have relabelled : Window ring.capacityFrames (Function.update ring.slots (ring.writeFrame % ring.capacityFrames) frame)
      (fun index => (history ++ [frame]).getD index []) ring.oldest ring.writeFrame := by
    refine stored.log_congr fun index lower upper => ?_
    have before : index < history.length := upper.trans_eq records.length.symm
    simp [List.getD_eq_getElem?_getD, List.getElem?_append_left before]
  refine ⟨?_, relabelled.publish ?_⟩
  · rw [List.length_append, records.length]
    rfl
  · simp [← records.length, List.getD_eq_getElem?_getD]

theorem pushed {pushed : AudioRing × ℕ} (records : pushed.1.Records history) (frames : List (List ℤ)) :
    (frames.foldl pushCounted pushed).1.Records (history ++ frames) := by
  induction frames generalizing pushed history with
  | nil =>
    rw [List.append_nil]
    exact records
  | cons frame frames ih =>
    rw [List.append_cons]
    have next : (pushCounted pushed frame).1.Records (history ++ [frame]) := records.pushFrame frame
    exact ih next

theorem sample (records : ring.Records history) {frame : ℤ} (live : ring.Live frame) (channel : ℕ) :
    ring.sample frame channel = (history.getD frame.toNat []).getD channel 0 := by
  obtain ⟨low, high⟩ := live
  have here := records.window frame.toNat (by omega) (by omega)
  rw [AudioRing.sample, if_neg (by omega), if_neg (by omega), here]

end Records

theorem pushed_channels (frames : List (List ℤ)) (pushed : AudioRing × ℕ) :
    (frames.foldl pushCounted pushed).1.channels = pushed.1.channels := by
  induction frames generalizing pushed with
  | nil => rfl
  | cons frame frames ih => exact ih _

end AudioRing

end Jts.Fanin
