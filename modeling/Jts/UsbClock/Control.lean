import Jts.UsbClock.Actuator

set_option autoImplicit false

namespace Jts.UsbClock

@[simp] theorem ppmToCtlValue_zero : ppmToCtlValue 0 = pitchNeutral := by decide +kernel

theorem round_within {ppm : ℚ} (low : 0 ≤ ppm) (high : ppm ≤ maxBiasPpm) : 0 ≤ round ppm ∧ round ppm ≤ 1000 := by
  rw [round_eq]
  constructor
  · exact Int.floor_nonneg.mpr (by linarith)
  · have below : ⌊ppm + 1 / 2⌋ < 1001 := Int.floor_lt.mpr (by
      push_cast
      linarith [show maxBiasPpm = 1000 from rfl])
    omega

theorem ppmToCtlValue_within (ppm : ℚ) : |ppmToCtlValue (clampBias ppm) - pitchNeutral| ≤ 1000 := by
  obtain ⟨low, high⟩ := abs_le.mp (abs_clampBias ppm)
  have rounded : |roundPpm (clampBias ppm)| ≤ 1000 := by
    rw [roundPpm, abs_le]
    split
    next negative =>
      have within := round_within (neg_nonneg.mpr negative.le) (by linarith)
      omega
    next positive =>
      have within := round_within (not_lt.mp positive) high
      omega
  rw [abs_le] at rounded ⊢
  simp only [ppmToCtlValue, pitchNeutral]
  omega

namespace PitchWrite

variable {write : PitchWrite}

def IsNeutral (write : PitchWrite) : Prop := write.value = pitchNeutral

/-- Every write away from neutral comes after a neutral one that went well; the list is newest first. -/
def Fenced : List PitchWrite → Prop
  | [] => True
  | write :: earlier => (write.IsNeutral ∨ ∃ neutral ∈ earlier, neutral.IsNeutral ∧ neutral.ok = true) ∧ Fenced earlier

theorem Fenced.append_neutral {new old : List PitchWrite} (fenced : Fenced old) (neutral : ∀ write ∈ new, write.IsNeutral) :
    Fenced (new ++ old) := by
  induction new with
  | nil => exact fenced
  | cons write new ih =>
    exact ⟨.inl (neutral write List.mem_cons_self), ih fun other among => neutral other (List.mem_cons_of_mem _ among)⟩

end PitchWrite

namespace HostClockActuator

variable {actuator after : HostClockActuator} {captureGeneration nowMs : ℕ}

structure Lawful (actuator : HostClockActuator) : Prop where
  paired : actuator.ctl.isSome = actuator.controlGeneration.isSome
  nonzero : actuator.controlGeneration ≠ some 0
  within : ∀ write ∈ actuator.writes, |write.value - pitchNeutral| ≤ 1000

def LeftNeutral (actuator : HostClockActuator) : Prop := ∀ ctl ∈ actuator.ctl, ctl.lastWritten = some pitchNeutral

/-- What making the control ready for a capture generation can come to. -/
inductive Refreshed (captureGeneration : ℕ) (before after : HostClockActuator) : Prop
  | kept (ctl : after.ctl = before.ctl) (held : before.ctl.isSome = true)
      (bound : before.controlGeneration = some captureGeneration) (same : after.controlGeneration = some captureGeneration)
      (nonzero : captureGeneration ≠ 0) (writes : after.writes = before.writes)
  | dropped (ctl : after.ctl = none) (control : after.controlGeneration = none) (new : List PitchWrite)
      (neutral : ∀ write ∈ new, write.IsNeutral) (writes : after.writes = new ++ before.writes)
  | renewed (ctl : after.ctl = some { lastWritten := some pitchNeutral })
      (control : after.controlGeneration = some captureGeneration) (nonzero : captureGeneration ≠ 0)
      (new : List PitchWrite) (neutral : ∀ write ∈ new, write.IsNeutral)
      (writes : after.writes = { value := pitchNeutral, ok := true } :: new ++ before.writes)

-- What was seen of the capture beforehand does not matter.
theorem Refreshed.of_same {seen : HostClockActuator} (refreshed : Refreshed captureGeneration seen after)
    (ctl : seen.ctl = actuator.ctl) (control : seen.controlGeneration = actuator.controlGeneration)
    (writes : seen.writes = actuator.writes) : Refreshed captureGeneration actuator after := by
  cases refreshed with
  | kept held some bound same nonzero kept => exact .kept (held.trans ctl) (ctl ▸ some) (control ▸ bound) same nonzero (kept.trans writes)
  | dropped gone unbound new neutral appended => exact .dropped gone unbound new neutral (writes ▸ appended)
  | renewed fresh bound nonzero new neutral appended => exact .renewed fresh bound nonzero new neutral (writes ▸ appended)

theorem Refreshed.after_drop {parted : HostClockActuator} {new : List PitchWrite}
    (refreshed : Refreshed captureGeneration parted after) (gone : parted.ctl = none) (neutral : ∀ write ∈ new, write.IsNeutral)
    (writes : parted.writes = new ++ actuator.writes) : Refreshed captureGeneration actuator after := by
  have both {more : List PitchWrite} (others : ∀ write ∈ more, write.IsNeutral) : ∀ write ∈ more ++ new, write.IsNeutral :=
    fun write among => (List.mem_append.mp among).elim (others write) (neutral write)
  cases refreshed with
  | kept _ held => exact absurd (gone ▸ held) nofun
  | dropped ctl control more others appended =>
    exact .dropped ctl control (more ++ new) (both others) (by rw [appended, writes, List.append_assoc])
  | renewed ctl control nonzero more others appended =>
    exact .renewed ctl control nonzero (more ++ new) (both others)
      (by rw [appended, writes, List.cons_append, List.cons_append, List.append_assoc])

theorem dropStale_dropped (lawful : actuator.Lawful) (answer : WriteAnswer) :
    (actuator.dropStale answer).ctl = none ∧ (actuator.dropStale answer).controlGeneration = none ∧
      ∃ new, (∀ write ∈ new, write.IsNeutral) ∧ (actuator.dropStale answer).writes = new ++ actuator.writes := by
  rw [dropStale]
  cases held : actuator.ctl with
  | none =>
    have unbound : actuator.controlGeneration = none := by simpa [held] using lawful.paired.symm
    exact ⟨held, unbound, [], nofun, rfl⟩
  | some ctl =>
    refine ⟨rfl, rfl, [{ value := pitchNeutral, ok := answer.ok }], fun write among => ?_, ?_⟩
    · rw [List.mem_singleton.mp among, PitchWrite.IsNeutral]
    · simp only [writeCurrent, held, ppmToCtlValue_zero]
      split <;> rfl

theorem observe_same (captureGeneration : ℕ) :
    (actuator.observe captureGeneration).ctl = actuator.ctl ∧
      (actuator.observe captureGeneration).controlGeneration = actuator.controlGeneration ∧
      (actuator.observe captureGeneration).writes = actuator.writes := by
  rw [observe]
  split <;> exact ⟨rfl, rfl, rfl⟩

theorem openNeutral_refreshed (gone : actuator.ctl = none) (unbound : actuator.controlGeneration = none)
    (nonzero : captureGeneration ≠ 0) (answers : RefreshAnswers) :
    Refreshed captureGeneration actuator (actuator.openNeutral captureGeneration nowMs answers).1 := by
  rw [openNeutral]
  cases answers.opens with
  | false => exact .dropped gone unbound [] nofun rfl
  | true =>
    cases ok : answers.neutral.ok with
    | true =>
      refine .renewed ?_ ?_ nonzero [] nofun ?_ <;> simp [writeCurrent, ok]
    | false =>
      refine .dropped ?_ ?_ [{ value := pitchNeutral, ok := false }] (fun write among => ?_) ?_
      · simp [writeCurrent, ok, invalidate]
      · simp [writeCurrent, ok, invalidate]
      · rw [List.mem_singleton.mp among, PitchWrite.IsNeutral]
      · simp [writeCurrent, ok, invalidate]

theorem replace_refreshed (lawful : actuator.Lawful) (nonzero : captureGeneration ≠ 0) (answers : RefreshAnswers) :
    Refreshed captureGeneration actuator (actuator.replace captureGeneration nowMs answers).1 := by
  obtain ⟨gone, unbound, new, neutral, writes⟩ := dropStale_dropped lawful answers.stale
  simp only [replace]
  generalize actuator.dropStale answers.stale = parted at gone unbound writes ⊢
  split
  next => exact .dropped gone unbound new neutral writes
  next =>
    have opened := @openNeutral_refreshed { parted with lastRefreshAttemptMs := some nowMs } captureGeneration nowMs gone unbound
      nonzero answers
    exact opened.after_drop gone neutral writes

theorem retire_dropped (lawful : actuator.Lawful) (answer : WriteAnswer) :
    Refreshed captureGeneration actuator (actuator.retire nowMs answer) := by
  rw [retire]
  cases held : actuator.ctl with
  | none =>
    have unbound : actuator.controlGeneration = none := by simpa [held] using lawful.paired.symm
    exact .dropped held unbound [] nofun rfl
  | some ctl =>
    refine .dropped rfl rfl [{ value := pitchNeutral, ok := answer.ok }] (fun write among => ?_) ?_
    · rw [List.mem_singleton.mp among, PitchWrite.IsNeutral]
    · simp only [Option.isSome_some, if_true, invalidate, writeCurrent, held, ppmToCtlValue_zero]
      split <;> rfl

theorem ensureReady_refreshed (lawful : actuator.Lawful) (answers : RefreshAnswers) :
    Refreshed captureGeneration actuator (actuator.ensureReady captureGeneration nowMs answers).1 := by
  obtain ⟨ctl, control, writes⟩ := actuator.observe_same captureGeneration
  rw [ensureReady]
  dsimp only
  split
  next => exact retire_dropped lawful answers.stale
  next nonzero =>
    split
    next bound => exact .kept ctl (ctl ▸ bound.2) (control ▸ bound.1) bound.1 nonzero writes
    next =>
      have seen : (actuator.observe captureGeneration).Lawful :=
        ⟨ctl ▸ control ▸ lawful.paired, control ▸ lawful.nonzero, writes ▸ lawful.within⟩
      exact (replace_refreshed seen nonzero answers).of_same ctl control writes

namespace Refreshed

variable {before : HostClockActuator}

theorem lawful (refreshed : Refreshed captureGeneration before after) (was : before.Lawful) : after.Lawful := by
  have within {new : List PitchWrite} (neutral : ∀ write ∈ new, write.IsNeutral) :
      ∀ write ∈ new ++ before.writes, |write.value - pitchNeutral| ≤ 1000 := fun write among =>
    (List.mem_append.mp among).elim (fun fresh => by simp [show write.value = pitchNeutral from neutral write fresh]) (was.within write)
  cases refreshed with
  | kept ctl held bound same nonzero writes =>
    exact ⟨by rw [ctl, held, same, Option.isSome_some], by simpa [same] using nonzero, writes ▸ was.within⟩
  | dropped ctl control new neutral writes => exact ⟨by rw [ctl, control]; rfl, by simp [control], writes ▸ within neutral⟩
  | renewed ctl control nonzero new neutral writes =>
    refine ⟨by rw [ctl, control]; rfl, by simpa [control] using nonzero, ?_⟩
    rw [writes]
    exact List.forall_mem_cons.mpr ⟨by simp, within neutral⟩

theorem ready (refreshed : Refreshed captureGeneration before after) :
    (after.status captureGeneration).ready = after.ctl.isSome := by
  cases refreshed with
  | kept ctl held bound same nonzero => simp [ControlStatus.ready, status, same, nonzero, ctl, held]
  | dropped ctl control => simp [ControlStatus.ready, status, control, ctl]
  | renewed ctl control nonzero => simp [ControlStatus.ready, status, control, nonzero, ctl]

theorem leftNeutral (refreshed : Refreshed captureGeneration before after) (was : before.LeftNeutral) : after.LeftNeutral := by
  cases refreshed with
  | kept ctl => simpa [LeftNeutral, ctl] using was
  | dropped ctl => simp [LeftNeutral, ctl]
  | renewed ctl => simp [LeftNeutral, ctl]

end Refreshed

/-- What applying one action can come to. -/
inductive Applied (value : ℤ) (before : HostClockActuator) : HostClockActuator × Bool → Prop
  | absent (gone : before.ctl = none) : Applied value before (before, false)
  | lands {after : HostClockActuator} (held : before.ctl.isSome = true) (ctl : after.ctl = some { lastWritten := some value })
      (control : after.controlGeneration = before.controlGeneration)
      (writes : after.writes = { value := value, ok := true } :: before.writes) : Applied value before (after, true)
  | fails {after : HostClockActuator} (held : before.ctl.isSome = true) (ctl : after.ctl = none)
      (control : after.controlGeneration = none)
      (writes : after.writes = { value := value, ok := false } :: before.writes) : Applied value before (after, false)

theorem apply_applied (ppm : ℚ) (reset : Bool) (answer : WriteAnswer) :
    Applied (ppmToCtlValue ppm) actuator (actuator.apply (.writePitch ppm reset) nowMs answer) := by
  rw [apply]
  cases held : actuator.ctl with
  | none => exact .absent held
  | some ctl =>
    simp only [Option.isNone_some, Bool.false_eq_true, if_false, writeCurrent, held]
    cases ok : answer.ok with
    | true => exact .lands (by rw [held]; rfl) rfl rfl (by simp)
    | false => exact .fails (by rw [held]; rfl) rfl rfl (by simp [invalidate])

namespace Applied

variable {before : HostClockActuator} {value : ℤ} {result : HostClockActuator × Bool}

theorem lawful (applied : Applied value before result) (was : before.Lawful) (within : |value - pitchNeutral| ≤ 1000) :
    result.1.Lawful := by
  cases applied with
  | absent => exact was
  | lands held ctl control writes =>
    refine ⟨by rw [ctl, control, ← was.paired, held, Option.isSome_some], control ▸ was.nonzero, ?_⟩
    rw [writes]
    exact List.forall_mem_cons.mpr ⟨within, was.within⟩
  | fails held ctl control writes =>
    refine ⟨by rw [ctl, control]; rfl, by simp [control], ?_⟩
    rw [writes]
    exact List.forall_mem_cons.mpr ⟨within, was.within⟩

theorem leftNeutral (applied : Applied pitchNeutral before result) : result.1.LeftNeutral := by
  cases applied with
  | absent gone => simp [LeftNeutral, gone]
  | lands _ ctl => simp [LeftNeutral, ctl]
  | fails _ ctl => simp [LeftNeutral, ctl]

end Applied

/-- The writes since the control was last away are fenced, and a control that is there has been neutralized since. -/
def FencedSince (base : List PitchWrite) (actuator : HostClockActuator) : Prop :=
  ∃ since, actuator.writes = since ++ base ∧ PitchWrite.Fenced since ∧
    (actuator.ctl.isSome = true → ∃ write ∈ since, write.IsNeutral ∧ write.ok = true)

theorem Refreshed.fencedSince {base : List PitchWrite} {before : HostClockActuator}
    (refreshed : Refreshed captureGeneration before after) (was : before.FencedSince base) : after.FencedSince base := by
  obtain ⟨since, old, fenced, neutralized⟩ := was
  cases refreshed with
  | kept ctl held _ _ _ writes => exact ⟨since, writes.trans old, fenced, fun _ => neutralized held⟩
  | dropped ctl control new neutral writes =>
    exact ⟨new ++ since, by rw [writes, old, List.append_assoc], fenced.append_neutral neutral, fun held => absurd (ctl ▸ held) nofun⟩
  | renewed ctl control nonzero new neutral writes =>
    exact ⟨{ value := pitchNeutral, ok := true } :: (new ++ since), by rw [writes, old, List.cons_append, List.cons_append,
      List.append_assoc], ⟨.inl rfl, fenced.append_neutral neutral⟩, fun _ => ⟨_, List.mem_cons_self, rfl, rfl⟩⟩

theorem Applied.fencedSince {base : List PitchWrite} {before : HostClockActuator} {value : ℤ} {result : HostClockActuator × Bool}
    (applied : Applied value before result) (was : before.FencedSince base) : result.1.FencedSince base := by
  obtain ⟨since, old, fenced, neutralized⟩ := was
  cases applied with
  | absent => exact ⟨since, old, fenced, neutralized⟩
  | lands held ctl _ writes =>
    obtain ⟨write, among, neutral⟩ := neutralized held
    exact ⟨_ :: since, by rw [writes, old, List.cons_append], ⟨.inr ⟨write, among, neutral⟩, fenced⟩,
      fun _ => ⟨write, List.mem_cons_of_mem _ among, neutral⟩⟩
  | fails held ctl _ writes =>
    exact ⟨_ :: since, by rw [writes, old, List.cons_append], ⟨.inr (neutralized held), fenced⟩, fun held => absurd (ctl ▸ held) nofun⟩

end HostClockActuator

end Jts.UsbClock
