import Jts.Shared.Word

set_option autoImplicit false

namespace Jts.Ring

open Jts.Shared.Word

def magic : UInt32 := 0x4A52494E
def version : UInt32 := 1
def headerBytes : UInt64 := 128
def sampleFormatS16le : UInt32 := 1
def sampleFormatS32le : UInt32 := 2
def s16leBytesPerSample : UInt64 := 2
def rateHz : UInt32 := 48000
def minNSlots : UInt32 := 2
def maxNSlots : UInt32 := 16
def minRingChannels : UInt32 := 2
def maxRingChannels : UInt32 := 8
def maxSlotBytes : UInt64 := 65536

inductive IoErrorKind
  | invalidInput
  | invalidData
  | os
  deriving DecidableEq, Repr

structure IoError where
  kind : IoErrorKind
  message : String
  deriving DecidableEq, Repr

structure Geometry where
  rate : UInt32
  channels : UInt32
  sampleFormat : UInt32
  periodFrames : UInt32
  nSlots : UInt32
  deriving DecidableEq, Repr

-- The 128 mapped header bytes, field by field; the reserved tail is read by nobody.
structure Header where
  magic : UInt32
  version : UInt32
  rate : UInt32
  channels : UInt32
  sampleFormat : UInt32
  periodFrames : UInt32
  nSlots : UInt32
  pad : UInt32
  writerEpoch : UInt64
  writeSeq : UInt64
  readSeq : UInt64
  writerPid : UInt64
  writerHeartbeatNs : UInt64
  readerPid : UInt64
  readerHeartbeatNs : UInt64
  futexWord : UInt32
  deriving DecidableEq, Repr

-- What ftruncate leaves behind the creator of a new file.
def Header.zero : Header where
  magic := 0
  version := 0
  rate := 0
  channels := 0
  sampleFormat := 0
  periodFrames := 0
  nSlots := 0
  pad := 0
  writerEpoch := 0
  writeSeq := 0
  readSeq := 0
  writerPid := 0
  writerHeartbeatNs := 0
  readerPid := 0
  readerHeartbeatNs := 0
  futexWord := 0

def Header.geometry (header : Header) : Geometry where
  rate := header.rate
  channels := header.channels
  sampleFormat := header.sampleFormat
  periodFrames := header.periodFrames
  nSlots := header.nSlots

def cfgErr (message : String) : IoError := ⟨.invalidInput, message⟩

namespace Geometry

def bytesPerSample (g : Geometry) : Except IoError UInt64 :=
  if g.sampleFormat = sampleFormatS16le then .ok s16leBytesPerSample
  else if g.sampleFormat = sampleFormatS32le then .ok 4
  else .error (cfgErr s!"unsupported ring sample format {g.sampleFormat}")

-- Two u32 factors cannot overflow the 64-bit usize of the targets.
def samplesPerSlot (g : Geometry) : UInt64 := g.periodFrames.toUInt64 * g.channels.toUInt64

def slotBytes (g : Geometry) : Except IoError UInt64 := do
  match checkedMul g.samplesPerSlot (← g.bytesPerSample) with
  | some bytes => .ok bytes
  | none => .error (cfgErr "ring slot byte size overflows usize")

def fileSize (g : Geometry) : Except IoError UInt64 := do
  match (checkedMul g.nSlots.toUInt64 (← g.slotBytes)).bind (checkedAdd headerBytes) with
  | some bytes => .ok bytes
  | none => .error (cfgErr "ring file size overflows usize")

def validateSelf (g : Geometry) : Except IoError Unit :=
  if g.sampleFormat ≠ sampleFormatS16le ∧ g.sampleFormat ≠ sampleFormatS32le then
    .error (cfgErr (s!"ring sample_format {g.sampleFormat} unsupported (S16LE={sampleFormatS16le} or " ++
      s!"S32LE={sampleFormatS32le})"))
  else if ¬(minRingChannels ≤ g.channels ∧ g.channels ≤ maxRingChannels) then
    .error (cfgErr s!"ring channels {g.channels} out of range {minRingChannels}..={maxRingChannels}")
  else if g.rate ≠ rateHz then
    .error (cfgErr s!"ring rate {g.rate} unsupported (only {rateHz})")
  else if g.periodFrames = 0 then
    .error (cfgErr "ring period_frames must be > 0")
  else if ¬(minNSlots ≤ g.nSlots ∧ g.nSlots ≤ maxNSlots) then
    .error (cfgErr s!"ring n_slots {g.nSlots} out of range {minNSlots}..={maxNSlots}")
  else do
    let slotBytes ← g.slotBytes
    if maxSlotBytes < slotBytes then
      .error (cfgErr (s!"ring slot {slotBytes} bytes exceeds the {maxSlotBytes}-byte cap " ++
        s!"(period_frames={g.periodFrames} channels={g.channels} sample_format={g.sampleFormat})"))
    else .ok ()

end Geometry

-- The C core computes the same sizes in size_t, which wraps, and reads an unknown format as two bytes.
def jtsRingSamplesPerSlot (g : Geometry) : UInt64 := g.periodFrames.toUInt64 * g.channels.toUInt64

def jtsRingBytesPerSample (sampleFormat : UInt32) : UInt64 :=
  if sampleFormat = sampleFormatS16le then 2
  else if sampleFormat = sampleFormatS32le then 4
  else 2

def jtsRingSlotBytes (g : Geometry) : UInt64 := jtsRingSamplesPerSlot g * jtsRingBytesPerSample g.sampleFormat

def jtsRingFileSize (g : Geometry) : UInt64 := headerBytes + g.nSlots.toUInt64 * jtsRingSlotBytes g

-- none is the accepting return of 0; a refusal carries the reason it stores.
def jtsRingGeometryValidate (g : Geometry) : Option String :=
  if g.sampleFormat ≠ sampleFormatS16le ∧ g.sampleFormat ≠ sampleFormatS32le then
    some "sample_format unsupported (only S16LE/S32LE)"
  else if g.channels < minRingChannels ∨ maxRingChannels < g.channels then
    some "channels out of range 2..=8"
  else if g.rate ≠ rateHz then
    some "rate unsupported (only 48000)"
  else if g.periodFrames = 0 then
    some "period_frames must be > 0"
  else if g.nSlots < minNSlots ∨ maxNSlots < g.nSlots then
    some "n_slots out of range 2..=16"
  else if maxSlotBytes < jtsRingSlotBytes g then
    some "slot_bytes exceeds the 65536-byte ceiling"
  else none

-- The accept-set both validators decide, read off the natural numbers.
structure Geometry.Accepted (g : Geometry) : Prop where
  format : g.sampleFormat = sampleFormatS16le ∨ g.sampleFormat = sampleFormatS32le
  channelsLower : 2 ≤ g.channels.toNat
  channelsUpper : g.channels.toNat ≤ 8
  rate : g.rate = rateHz
  period : 0 < g.periodFrames.toNat
  slotsLower : 2 ≤ g.nSlots.toNat
  slotsUpper : g.nSlots.toNat ≤ 16
  slotCap : g.periodFrames.toNat * g.channels.toNat * (jtsRingBytesPerSample g.sampleFormat).toNat ≤ 65536

namespace Geometry

theorem bytesPerSample_known {g : Geometry}
    (known : g.sampleFormat = sampleFormatS16le ∨ g.sampleFormat = sampleFormatS32le) :
    g.bytesPerSample = .ok (jtsRingBytesPerSample g.sampleFormat) := by
  rcases known with known | known <;> simp [bytesPerSample, jtsRingBytesPerSample, known] <;> decide

theorem jtsRingBytesPerSample_le (format : UInt32) : (jtsRingBytesPerSample format).toNat ≤ 4 := by
  unfold jtsRingBytesPerSample
  split_ifs <;> decide

theorem toNat_samplesPerSlot (g : Geometry) :
    g.samplesPerSlot.toNat = g.periodFrames.toNat * g.channels.toNat := by
  have periodBound := g.periodFrames.toNat_lt
  have channelBound := g.channels.toNat_lt
  have product : g.periodFrames.toNat * g.channels.toNat < 2 ^ 32 * 2 ^ 32 := by
    exact Nat.mul_lt_mul'' periodBound channelBound
  simp only [samplesPerSlot, UInt64.toNat_mul, UInt32.toNat_toUInt64]
  exact Nat.mod_eq_of_lt (by omega)

-- Eight channels of four bytes leave the size_t product of any u32 period below the wrap.
theorem toNat_jtsRingSlotBytes {g : Geometry} (channels : g.channels.toNat ≤ 8) :
    (jtsRingSlotBytes g).toNat =
      g.periodFrames.toNat * g.channels.toNat * (jtsRingBytesPerSample g.sampleFormat).toNat := by
  have periodBound := g.periodFrames.toNat_lt
  have samples : (jtsRingSamplesPerSlot g).toNat = g.periodFrames.toNat * g.channels.toNat :=
    toNat_samplesPerSlot g
  have width := jtsRingBytesPerSample_le g.sampleFormat
  have product : g.periodFrames.toNat * g.channels.toNat * (jtsRingBytesPerSample g.sampleFormat).toNat ≤
      2 ^ 32 * 8 * 4 := Nat.mul_le_mul (Nat.mul_le_mul (Nat.le_of_lt periodBound) channels) width
  simp only [jtsRingSlotBytes, UInt64.toNat_mul, samples]
  exact Nat.mod_eq_of_lt (by omega)

theorem slotBytes_ok {g : Geometry} {bytes : UInt64}
    (known : g.sampleFormat = sampleFormatS16le ∨ g.sampleFormat = sampleFormatS32le) :
    g.slotBytes = .ok bytes ↔
      g.periodFrames.toNat * g.channels.toNat * (jtsRingBytesPerSample g.sampleFormat).toNat = bytes.toNat := by
  have product := checkedMul_eq_some (a := g.samplesPerSlot) (b := jtsRingBytesPerSample g.sampleFormat) (c := bytes)
  rw [toNat_samplesPerSlot] at product
  rw [← product]
  simp only [slotBytes, bytesPerSample_known known, bind, Except.bind]
  cases checkedMul g.samplesPerSlot (jtsRingBytesPerSample g.sampleFormat) <;> simp

theorem slotBytes_of_channels {g : Geometry}
    (known : g.sampleFormat = sampleFormatS16le ∨ g.sampleFormat = sampleFormatS32le)
    (channels : g.channels.toNat ≤ 8) : g.slotBytes = .ok (jtsRingSlotBytes g) := by
  rw [slotBytes_ok known, toNat_jtsRingSlotBytes channels]

theorem channels_iff (g : Geometry) :
    (minRingChannels ≤ g.channels ∧ g.channels ≤ maxRingChannels) ↔
      (2 ≤ g.channels.toNat ∧ g.channels.toNat ≤ 8) := by
  simp only [UInt32.le_iff_toNat_le]
  exact Iff.rfl

theorem nSlots_iff (g : Geometry) :
    (minNSlots ≤ g.nSlots ∧ g.nSlots ≤ maxNSlots) ↔ (2 ≤ g.nSlots.toNat ∧ g.nSlots.toNat ≤ 16) := by
  simp only [UInt32.le_iff_toNat_le]
  exact Iff.rfl

theorem period_iff (g : Geometry) : g.periodFrames ≠ 0 ↔ 0 < g.periodFrames.toNat := by
  rw [ne_eq, ← UInt32.toNat_inj]
  exact Nat.pos_iff_ne_zero.symm

theorem slotCap_iff {g : Geometry} (channels : g.channels.toNat ≤ 8) :
    ¬maxSlotBytes < jtsRingSlotBytes g ↔
      g.periodFrames.toNat * g.channels.toNat * (jtsRingBytesPerSample g.sampleFormat).toNat ≤ 65536 := by
  rw [UInt64.lt_iff_toNat_lt, toNat_jtsRingSlotBytes channels, not_lt]
  exact Iff.rfl

theorem validateSelf_ok {g : Geometry} : g.validateSelf = .ok () ↔ g.Accepted := by
  constructor
  next =>
    intro valid
    unfold validateSelf at valid
    split_ifs at valid with format channels rate period slots
    have known : g.sampleFormat = sampleFormatS16le ∨ g.sampleFormat = sampleFormatS32le := by
      by_contra other
      exact format (not_or.mp other)
    have channelRange := (channels_iff g).mp channels
    have slotRange := (nSlots_iff g).mp slots
    rw [slotBytes_of_channels known channelRange.2] at valid
    have cap : ¬maxSlotBytes < jtsRingSlotBytes g := by
      intro exceeds
      simp [bind, Except.bind, exceeds] at valid
    exact ⟨known, channelRange.1, channelRange.2, not_not.mp rate, (period_iff g).mp period,
      slotRange.1, slotRange.2, (slotCap_iff channelRange.2).mp cap⟩
  next =>
    intro accepted
    have known : ¬(g.sampleFormat ≠ sampleFormatS16le ∧ g.sampleFormat ≠ sampleFormatS32le) :=
      fun other => (not_or.mpr other) accepted.format
    have channels := (channels_iff g).mpr ⟨accepted.channelsLower, accepted.channelsUpper⟩
    have slots := (nSlots_iff g).mpr ⟨accepted.slotsLower, accepted.slotsUpper⟩
    have period := (period_iff g).mpr accepted.period
    have cap := (slotCap_iff accepted.channelsUpper).mpr accepted.slotCap
    have rate : ¬g.rate ≠ rateHz := not_not.mpr accepted.rate
    rw [validateSelf, if_neg known, if_neg (not_not.mpr channels), if_neg rate, if_neg period,
      if_neg (not_not.mpr slots), slotBytes_of_channels accepted.format accepted.channelsUpper]
    simp [bind, Except.bind, cap]

theorem channels_out_iff (g : Geometry) :
    ¬(g.channels < minRingChannels ∨ maxRingChannels < g.channels) ↔
      (2 ≤ g.channels.toNat ∧ g.channels.toNat ≤ 8) := by
  rw [not_or, UInt32.not_lt, UInt32.not_lt, channels_iff]

theorem nSlots_out_iff (g : Geometry) :
    ¬(g.nSlots < minNSlots ∨ maxNSlots < g.nSlots) ↔ (2 ≤ g.nSlots.toNat ∧ g.nSlots.toNat ≤ 16) := by
  rw [not_or, UInt32.not_lt, UInt32.not_lt, nSlots_iff]

theorem jtsRingGeometryValidate_none {g : Geometry} : jtsRingGeometryValidate g = none ↔ g.Accepted := by
  constructor
  next =>
    intro valid
    unfold jtsRingGeometryValidate at valid
    split_ifs at valid with format channels rate period slots cap
    have known : g.sampleFormat = sampleFormatS16le ∨ g.sampleFormat = sampleFormatS32le := by
      by_contra other
      exact format (not_or.mp other)
    have channelRange := (channels_out_iff g).mp channels
    have slotRange := (nSlots_out_iff g).mp slots
    exact ⟨known, channelRange.1, channelRange.2, not_not.mp rate, (period_iff g).mp period,
      slotRange.1, slotRange.2, (slotCap_iff channelRange.2).mp cap⟩
  next =>
    intro accepted
    have known : ¬(g.sampleFormat ≠ sampleFormatS16le ∧ g.sampleFormat ≠ sampleFormatS32le) :=
      fun other => (not_or.mpr other) accepted.format
    have channels := (channels_out_iff g).mpr ⟨accepted.channelsLower, accepted.channelsUpper⟩
    have slots := (nSlots_out_iff g).mpr ⟨accepted.slotsLower, accepted.slotsUpper⟩
    have period := (period_iff g).mpr accepted.period
    have cap := (slotCap_iff accepted.channelsUpper).mpr accepted.slotCap
    have rate : ¬g.rate ≠ rateHz := not_not.mpr accepted.rate
    rw [jtsRingGeometryValidate, if_neg known, if_neg channels, if_neg rate, if_neg period,
      if_neg slots, if_neg cap]

-- The accept-set caps the slot payload, so the whole file stays within one MiB and the header.
theorem slots_bound {g : Geometry} (accepted : g.Accepted) :
    g.nSlots.toNat * (jtsRingSlotBytes g).toNat ≤ 16 * 65536 := by
  have slot := toNat_jtsRingSlotBytes accepted.channelsUpper
  have cap : (jtsRingSlotBytes g).toNat ≤ 65536 := slot ▸ accepted.slotCap
  exact Nat.mul_le_mul accepted.slotsUpper cap

theorem toNat_jtsRingSlots {g : Geometry} (accepted : g.Accepted) :
    (g.nSlots.toUInt64 * jtsRingSlotBytes g).toNat = g.nSlots.toNat * (jtsRingSlotBytes g).toNat := by
  have bound := slots_bound accepted
  rw [UInt64.toNat_mul, UInt32.toNat_toUInt64, Nat.mod_eq_of_lt (by omega)]

theorem toNat_jtsRingFileSize {g : Geometry} (accepted : g.Accepted) :
    (jtsRingFileSize g).toNat = 128 + g.nSlots.toNat * (jtsRingSlotBytes g).toNat := by
  have bound := slots_bound accepted
  have slots := toNat_jtsRingSlots accepted
  have header : headerBytes.toNat = 128 := rfl
  rw [jtsRingFileSize, toNat_add_of_lt (by omega), slots, header]

-- Both sides size such a file by one number, without an overflow on either.
theorem fileSize_accepted {g : Geometry} (accepted : g.Accepted) : g.fileSize = .ok (jtsRingFileSize g) := by
  have bound := slots_bound accepted
  have slots := toNat_jtsRingSlots accepted
  have header : headerBytes.toNat = 128 := rfl
  have multiplied : checkedMul g.nSlots.toUInt64 (jtsRingSlotBytes g) =
      some (g.nSlots.toUInt64 * jtsRingSlotBytes g) := by
    rw [checkedMul, UInt32.toNat_toUInt64, if_pos (by omega)]
  have added : checkedAdd headerBytes (g.nSlots.toUInt64 * jtsRingSlotBytes g) = some (jtsRingFileSize g) := by
    rw [checkedAdd, if_pos (by omega), jtsRingFileSize]
  simp only [fileSize, slotBytes_of_channels accepted.format accepted.channelsUpper, bind,
    Except.bind, multiplied, Option.bind, added]

theorem headerBytes_le_fileSize {g : Geometry} (accepted : g.Accepted) : headerBytes ≤ jtsRingFileSize g := by
  have header : headerBytes.toNat = 128 := rfl
  rw [UInt64.le_iff_toNat_le, toNat_jtsRingFileSize accepted, header]
  omega

end Geometry

-- The shipped two-slot stereo instance.
def protoGeometry : Geometry where
  rate := 48000
  channels := 2
  sampleFormat := 1
  periodFrames := 128
  nSlots := 2

theorem protoGeometry_accepted : protoGeometry.Accepted :=
  Geometry.validateSelf_ok.mp (by decide)

end Jts.Ring
