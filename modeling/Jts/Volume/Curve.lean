import Mathlib.Algebra.Order.Field.Rat
import Mathlib.Tactic.Linarith
import Mathlib.Tactic.Positivity

set_option autoImplicit false

namespace Jts.Volume

-- A level in dB is kept as a rational: the curve is linear and only its order is read.
abbrev Db := ℚ

inductive Source
  | airplay
  | spotify
  | bluetooth
  | usbsink
  | idle
deriving DecidableEq

inductive VolumeMode
  | camillaMaster
  | push
deriving DecidableEq

def volumeMode : Source → VolumeMode
  | .spotify | .bluetooth => .push
  | .airplay | .usbsink | .idle => .camillaMaster

def volumeCeilingDb : Db := 0

-- Below human-noticeable drift, above Camilla's normal jitter.
def reconcileDriftDb : Db := 1

def readbackToleranceDb : Db := 1 / 20

def muteDbEpsilon : Db := 1 / 1000000

/-- A floor that `normalize_volume_floor_db` lets through. -/
structure Floor where
  db : Db
  low : -60 ≤ db
  high : db ≤ -10

def percentToDb (floor : Floor) (percent : Nat) : Db :=
  let span := volumeCeilingDb - floor.db
  if percent = 0 then floor.db
  else if percent = 1 then floor.db + span / 99 / 4
  else floor.db + span * (((min percent 100 : Nat) - 1 : ℚ) / 99)

def mainMuteForLevel (level : Nat) : Bool := level == 0

def mainMuteForDb (floor : Floor) (db : Db) : Bool := db ≤ percentToDb floor 0 + muteDbEpsilon

def guardInEffect (db : Option Db) : Bool :=
  match db with
  | none => false
  | some db => db < -reconcileDriftDb

def canonicalTargetDb (floor : Floor) (effectiveLevel : Nat) (mode : VolumeMode) (persistedDb : Option Db) : Db :=
  if mode = .camillaMaster then percentToDb floor effectiveLevel
  else if mainMuteForLevel effectiveLevel then percentToDb floor 0
  else match persistedDb with
    | some db => if guardInEffect (some db) then db else 0
    | none => 0

theorem percentToDb_zero (floor : Floor) : percentToDb floor 0 = floor.db := rfl

theorem percentToDb_le_ceiling (floor : Floor) (percent : Nat) : percentToDb floor percent ≤ volumeCeilingDb := by
  have high := floor.high
  simp only [percentToDb, volumeCeilingDb]
  split
  · linarith
  · split
    · linarith
    · have capped : ((min percent 100 : Nat) : ℚ) ≤ 100 := by exact_mod_cast Nat.min_le_right _ _
      have part : (((min percent 100 : Nat) : ℚ) - 1) / 99 ≤ 1 := by
        rw [div_le_one (by norm_num)]
        linarith
      nlinarith

theorem floor_le_percentToDb (floor : Floor) (percent : Nat) : percentToDb floor 0 ≤ percentToDb floor percent := by
  have high := floor.high
  simp only [percentToDb, volumeCeilingDb, if_true]
  split
  · exact le_refl _
  · split
    · linarith
    · rename_i nonzero _
      have positive : (1 : ℚ) ≤ (min percent 100 : Nat) := by
        exact_mod_cast (show 1 ≤ min percent 100 by omega)
      have part : 0 ≤ (((min percent 100 : Nat) : ℚ) - 1) / 99 := div_nonneg (by linarith) (by norm_num)
      nlinarith

end Jts.Volume
