import Jts.Ring.Layout

set_option autoImplicit false

namespace Jts.Ring

open Jts.Shared.Word

def magicWaitTimeoutMs : UInt64 := 100

-- One pass of a bounded wait: what fstat and the mapping show, then the clock the loop compares.
structure Poll where
  size : Option UInt64
  header : Header
  nowNs : UInt64
  deriving DecidableEq, Repr

inductive AttachError
  | fatal (error : IoError)
  | magicInvalid
  deriving DecidableEq, Repr

def lastOsError (call : String) : IoError := ⟨.os, call⟩

-- none: the polls ended while the loop was still waiting.
def waitForMappableSize (deadlineNs : UInt64) : List Poll → Option (Except AttachError UInt64 × List Poll)
  | [] => none
  | poll :: polls =>
    match poll.size with
    | none => some (.error (.fatal (lastOsError "fstat")), polls)
    | some size =>
      if headerBytes ≤ size then some (.ok size, polls)
      else if deadlineNs ≤ poll.nowNs then some (.error .magicInvalid, polls)
      else waitForMappableSize deadlineNs polls

-- The header is the one mapped when the magic was seen; some none is the timeout.
def waitForMagic (deadlineNs : UInt64) : List Poll → Option (Option Header)
  | [] => none
  | poll :: polls =>
    if poll.header.magic = magic then some (some poll.header)
    else if deadlineNs ≤ poll.nowNs then some none
    else waitForMagic deadlineNs polls

def mismatch (field : String) (got want : UInt32) : IoError :=
  ⟨.invalidData, s!"ring header {field} mismatch: file has {got}, expected {want}"⟩

def checkField (field : String) (got want : UInt32) : Except AttachError Unit :=
  if got ≠ want then .error (.fatal (mismatch field got want)) else .ok ()

def validateAttachedMap (header : Header) (actualSize : UInt64) (expected : Geometry) :
    Except AttachError Unit :=
  match header.geometry.fileSize with
  | .error error => .error (.fatal ⟨.invalidData, s!"invalid ring header geometry: {error.message}"⟩)
  | .ok declaredSize =>
    if declaredSize ≠ actualSize then
      .error (.fatal ⟨.invalidData, s!"ring file size {actualSize} is inconsistent with its own header geometry " ++
        s!"(declares {declaredSize} bytes: rate={header.rate} ch={header.channels} fmt={header.sampleFormat} " ++
        s!"period={header.periodFrames} slots={header.nSlots})"⟩)
    else do
      checkField "version" header.version version
      checkField "rate" header.rate expected.rate
      checkField "channels" header.channels expected.channels
      checkField "sample_format" header.sampleFormat expected.sampleFormat
      checkField "period_frames" header.periodFrames expected.periodFrames
      checkField "n_slots" header.nSlots expected.nSlots

-- mapped says whether the mmap of the opened file succeeds.
def attachExisting (expected : Geometry) (startNs : UInt64) (mapped : Bool) (polls : List Poll) :
    Option (Except AttachError Unit) := do
  let deadlineNs := startNs + magicWaitTimeoutMs * 1000000
  let (size, polls) ← waitForMappableSize deadlineNs polls
  match size with
  | .error error => some (.error error)
  | .ok actualSize =>
    if mapped then do
      match ← waitForMagic deadlineNs polls with
      | none => some (.error .magicInvalid)
      | some header => some (validateAttachedMap header actualSize expected)
    else some (.error (.fatal (lastOsError "mmap")))

inductive RingAttachResult
  | fatal (reason : String)
  | valid
  | torn
  deriving DecidableEq, Repr

-- valid stores the size; the other two results leave it unset.
def jtsRingWaitForMappableSize (deadline : UInt64) :
    List Poll → Option (RingAttachResult × UInt64 × List Poll)
  | [] => none
  | poll :: polls =>
    match poll.size with
    | none => some (.fatal "fstat failed", 0, polls)
    | some size =>
      if headerBytes ≤ size then some (.valid, size, polls)
      else if deadline ≤ poll.nowNs then some (.torn, 0, polls)
      else jtsRingWaitForMappableSize deadline polls

def attachExistingMapping (expected : Geometry) (startNs : UInt64) (mapped : Bool) (polls : List Poll) :
    Option RingAttachResult := do
  let deadline := startNs + magicWaitTimeoutMs * 1000000
  let (sizeResult, actual, polls) ← jtsRingWaitForMappableSize deadline polls
  if sizeResult ≠ .valid then some sizeResult
  else if mapped then do
    match ← waitForMagic deadline polls with
    | none => some .torn
    | some header =>
      let headerG := header.geometry
      if jtsRingFileSize headerG ≠ actual then
        some (.fatal "file size inconsistent with header geometry")
      else if header.version ≠ version ∨ headerG.rate ≠ expected.rate ∨
          headerG.channels ≠ expected.channels ∨ headerG.sampleFormat ≠ expected.sampleFormat ∨
          headerG.periodFrames ≠ expected.periodFrames ∨ headerG.nSlots ≠ expected.nSlots then
        some (.fatal "ring header does not match expected geometry")
      else some .valid
  else some (.fatal "mmap failed")

-- The header and size a creator of either language leaves, from the zeroed file on.
def writeConfig (header : Header) (g : Geometry) : Header :=
  { header with
    version := version, rate := g.rate, channels := g.channels, sampleFormat := g.sampleFormat,
    periodFrames := g.periodFrames, nSlots := g.nSlots, pad := 0 }

-- The Release store of the qword: the magic below, the version already in place above it.
def writeU32ReleaseMagic (header : Header) : Header := { header with magic := magic }

def initCreated (g : Geometry) : Except IoError (UInt64 × Header) := do
  let fileSize ← g.fileSize
  .ok (fileSize, writeU32ReleaseMagic (writeConfig .zero g))

def initCreatedMapping (g : Geometry) : UInt64 × Header :=
  (jtsRingFileSize g, { writeConfig .zero g with futexWord := 0, magic := magic, version := version })

theorem checkField_ok {field : String} {got want : UInt32} :
    checkField field got want = .ok () ↔ got = want := by
  by_cases same : got = want <;> simp [checkField, same]

theorem bind_ok {first second : Except AttachError Unit} :
    (first >>= fun _ => second) = .ok () ↔ first = .ok () ∧ second = .ok () := by
  cases first <;> simp [bind, Except.bind]

theorem validateAttachedMap_ok {header : Header} {actualSize : UInt64} {expected : Geometry}
    (accepted : expected.Accepted) :
    validateAttachedMap header actualSize expected = .ok () ↔
      header.version = version ∧ header.geometry = expected ∧ jtsRingFileSize expected = actualSize := by
  constructor
  next =>
    intro valid
    unfold validateAttachedMap at valid
    split at valid
    next => cases valid
    next declaredSize declared =>
      split_ifs at valid with size
      simp only [bind_ok, checkField_ok] at valid
      obtain ⟨sameVersion, rate, channels, format, period, slots⟩ := valid
      have same : header.geometry = expected := by
        cases expected
        simp_all [Header.geometry]
      rw [same, Geometry.fileSize_accepted accepted, Except.ok.injEq] at declared
      exact ⟨sameVersion, same, declared.trans (not_not.mp size)⟩
  next =>
    rintro ⟨sameVersion, same, size⟩
    have fields : header.rate = expected.rate ∧ header.channels = expected.channels ∧
        header.sampleFormat = expected.sampleFormat ∧ header.periodFrames = expected.periodFrames ∧
        header.nSlots = expected.nSlots := by
      rw [← same]
      simp [Header.geometry]
    obtain ⟨rate, channels, format, period, slots⟩ := fields
    unfold validateAttachedMap
    rw [same, Geometry.fileSize_accepted accepted]
    simp [size, bind_ok, checkField_ok, sameVersion, rate, channels, format, period, slots]

inductive AttachClass
  | fatal
  | valid
  | torn
  deriving DecidableEq, Repr

def RingAttachResult.class : RingAttachResult → AttachClass
  | .fatal _ => .fatal
  | .valid => .valid
  | .torn => .torn

def AttachError.class : AttachError → AttachClass
  | .fatal _ => .fatal
  | .magicInvalid => .torn

def attachClass : Except AttachError Unit → AttachClass
  | .ok () => .valid
  | .error error => error.class

theorem jtsRingWaitForMappableSize_agrees (deadline : UInt64) (polls : List Poll) :
    jtsRingWaitForMappableSize deadline polls =
      (waitForMappableSize deadline polls).map fun (size, rest) =>
        match size with
        | .ok size => (.valid, size, rest)
        | .error .magicInvalid => (.torn, 0, rest)
        | .error (.fatal _) => (.fatal "fstat failed", 0, rest) := by
  induction polls with
  | nil => rfl
  | cons poll polls ih =>
    cases shown : poll.size with
    | none => simp [jtsRingWaitForMappableSize, waitForMappableSize, shown]
    | some size =>
      simp only [jtsRingWaitForMappableSize, waitForMappableSize, shown]
      split_ifs <;> simp [ih]

-- The header check that attach_existing_mapping makes once the magic is there.
theorem headerCheck_iff {header : Header} {actual : UInt64} {expected : Geometry} (accepted : expected.Accepted) :
    (jtsRingFileSize header.geometry = actual ∧
      ¬(header.version ≠ version ∨ header.geometry.rate ≠ expected.rate ∨
        header.geometry.channels ≠ expected.channels ∨ header.geometry.sampleFormat ≠ expected.sampleFormat ∨
        header.geometry.periodFrames ≠ expected.periodFrames ∨ header.geometry.nSlots ≠ expected.nSlots)) ↔
      validateAttachedMap header actual expected = .ok () := by
  rw [validateAttachedMap_ok accepted]
  simp only [not_or, not_not]
  constructor
  next =>
    rintro ⟨size, sameVersion, rate, channels, format, period, slots⟩
    have same : header.geometry = expected := by
      cases expected
      simp_all [Header.geometry]
    exact ⟨sameVersion, same, same ▸ size⟩
  next =>
    rintro ⟨sameVersion, same, size⟩
    rw [same]
    exact ⟨size, sameVersion, rfl, rfl, rfl, rfl, rfl⟩

theorem checkField_not_torn (field : String) (got want : UInt32) :
    checkField field got want ≠ .error .magicInvalid := by
  unfold checkField
  split_ifs <;> simp

theorem bind_not_torn {first second : Except AttachError Unit} (left : first ≠ .error .magicInvalid)
    (right : second ≠ .error .magicInvalid) : (first >>= fun _ => second) ≠ .error .magicInvalid := by
  cases first with
  | error error => simpa [bind, Except.bind] using left
  | ok => simpa [bind, Except.bind] using right

theorem validateAttachedMap_not_torn (header : Header) (actual : UInt64) (expected : Geometry) :
    validateAttachedMap header actual expected ≠ .error .magicInvalid := by
  unfold validateAttachedMap
  split
  next => simp
  next =>
    split_ifs
    next => simp
    next =>
      repeat' refine bind_not_torn ?_ ?_
      all_goals apply checkField_not_torn

theorem validateAttachedMap_class (header : Header) (actual : UInt64) (expected : Geometry) :
    attachClass (validateAttachedMap header actual expected) =
      if validateAttachedMap header actual expected = .ok () then .valid else .fatal := by
  cases outcome : validateAttachedMap header actual expected with
  | ok => simp [attachClass]
  | error error =>
    cases error with
    | fatal => simp [attachClass, AttachError.class]
    | magicInvalid => exact absurd outcome (validateAttachedMap_not_torn header actual expected)

-- Any file, changing under the attach or not: both sides put it in the same class at the same poll.
theorem attachExistingMapping_agrees {expected : Geometry} (accepted : expected.Accepted) (startNs : UInt64)
    (mapped : Bool) (polls : List Poll) :
    (attachExistingMapping expected startNs mapped polls).map RingAttachResult.class =
      (attachExisting expected startNs mapped polls).map attachClass := by
  unfold attachExistingMapping attachExisting
  simp only [jtsRingWaitForMappableSize_agrees]
  rcases waitForMappableSize (startNs + magicWaitTimeoutMs * 1000000) polls with _ | ⟨size, rest⟩
  next => rfl
  cases size with
  | error error => cases error <;> rfl
  | ok actual =>
    cases mapped with
    | false => rfl
    | true =>
      simp only [Option.map_some, Option.bind_some, bind]
      rcases waitForMagic (startNs + magicWaitTimeoutMs * 1000000) rest with _ | magicSeen
      next => rfl
      cases magicSeen with
      | none => rfl
      | some header =>
        have check : _ ↔ validateAttachedMap header actual expected = .ok () := headerCheck_iff accepted
        simp only [ne_eq, not_true_eq_false, if_false, if_true, Option.bind_some, Option.map_some,
          validateAttachedMap_class, ← check]
        by_cases size : jtsRingFileSize header.geometry = actual
        next =>
          simp only [size, not_true_eq_false, if_false, true_and]
          split_ifs <;> rfl
        next => simp [size, RingAttachResult.class]

end Jts.Ring
