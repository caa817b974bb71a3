import Mathlib

set_option autoImplicit false

namespace Jts.Shared.Word

-- Each wrapping operation is read once as a case split on the naturals, so that omega can finish.
theorem sub_cases (a b : UInt64) :
    (b.toNat ≤ a.toNat ∧ (a - b).toNat = a.toNat - b.toNat) ∨
      (a.toNat < b.toNat ∧ (a - b).toNat = 2 ^ 64 + a.toNat - b.toNat) := by
  have boundA := a.toNat_lt
  have boundB := b.toNat_lt
  rw [UInt64.toNat_sub]
  omega

theorem add_cases (a b : UInt64) :
    (a.toNat + b.toNat < 2 ^ 64 ∧ (a + b).toNat = a.toNat + b.toNat) ∨
      (2 ^ 64 ≤ a.toNat + b.toNat ∧ (a + b).toNat + 2 ^ 64 = a.toNat + b.toNat) := by
  have boundA := a.toNat_lt
  have boundB := b.toNat_lt
  rw [UInt64.toNat_add]
  omega

theorem toNat_sub_of_le {a b : UInt64} (le : b.toNat ≤ a.toNat) :
    (a - b).toNat = a.toNat - b.toNat :=
  UInt64.toNat_sub_of_le a b (UInt64.le_iff_toNat_le.mpr le)

theorem toNat_add_of_lt {a b : UInt64} (lt : a.toNat + b.toNat < 2 ^ 64) :
    (a + b).toNat = a.toNat + b.toNat := by
  rcases add_cases a b with ⟨_, sum⟩ | ⟨wraps, _⟩
  next => exact sum
  next => omega

theorem toNat_succ {a : UInt64} (lt : a.toNat + 1 < 2 ^ 64) : (a + 1).toNat = a.toNat + 1 :=
  toNat_add_of_lt lt

theorem eq_of_sub_zero {a b : UInt64} (same : a - b = 0) : a = b := by
  have restored := UInt64.sub_add_cancel a b
  rw [same, UInt64.zero_add] at restored
  exact restored.symm

theorem succ_ne (a : UInt64) : a + 1 ≠ a := by
  intro same
  have one : (1 : UInt64).toNat = 1 := rfl
  have bound := a.toNat_lt
  have value := congrArg UInt64.toNat same
  rcases add_cases a 1 with ⟨_, sum⟩ | ⟨_, sum⟩ <;> omega

theorem succ_sub_succ (w r : UInt64) : w + 1 - (r + 1) = w - r := by
  apply UInt64.toNat.inj
  have one : (1 : UInt64).toNat = 1 := rfl
  have boundW := w.toNat_lt
  have boundR := r.toNat_lt
  rcases add_cases w 1 with ⟨_, w1⟩ | ⟨_, w1⟩ <;> rcases add_cases r 1 with ⟨_, r1⟩ | ⟨_, r1⟩ <;>
    rcases sub_cases (w + 1) (r + 1) with ⟨_, left⟩ | ⟨_, left⟩ <;>
      rcases sub_cases w r with ⟨_, right⟩ | ⟨_, right⟩ <;> omega

theorem toNat_succ_sub {w r : UInt64} (small : (w - r).toNat + 1 < 2 ^ 64) :
    (w + 1 - r).toNat = (w - r).toNat + 1 := by
  have one : (1 : UInt64).toNat = 1 := rfl
  have boundW := w.toNat_lt
  have boundR := r.toNat_lt
  rcases add_cases w 1 with ⟨_, w1⟩ | ⟨_, w1⟩ <;> rcases sub_cases (w + 1) r with ⟨_, left⟩ | ⟨_, left⟩ <;>
    rcases sub_cases w r with ⟨_, right⟩ | ⟨_, right⟩ <;> omega

theorem toNat_sub_succ {w r : UInt64} (ne : w ≠ r) : (w - (r + 1)).toNat + 1 = (w - r).toNat := by
  have one : (1 : UInt64).toNat = 1 := rfl
  have boundW := w.toNat_lt
  have boundR := r.toNat_lt
  have distinct : w.toNat ≠ r.toNat := fun same => ne (UInt64.toNat.inj same)
  rcases add_cases r 1 with ⟨_, r1⟩ | ⟨_, r1⟩ <;> rcases sub_cases w (r + 1) with ⟨_, left⟩ | ⟨_, left⟩ <;>
    rcases sub_cases w r with ⟨_, right⟩ | ⟨_, right⟩ <;> omega

-- Rust's checked_mul and checked_add on a 64-bit word.
def checkedMul (a b : UInt64) : Option UInt64 :=
  if a.toNat * b.toNat < 2 ^ 64 then some (a * b) else none

def checkedAdd (a b : UInt64) : Option UInt64 :=
  if a.toNat + b.toNat < 2 ^ 64 then some (a + b) else none

def saturatingSub (a b : UInt64) : UInt64 := if b ≤ a then a - b else 0

def saturatingAdd (a b : UInt64) : UInt64 := if a.toNat + b.toNat < 2 ^ 64 then a + b else 0 - 1

theorem toNat_saturatingSub (a b : UInt64) : (saturatingSub a b).toNat = a.toNat - b.toNat := by
  unfold saturatingSub
  split_ifs with le
  next => exact toNat_sub_of_le (UInt64.le_iff_toNat_le.mp le)
  next =>
    rw [UInt64.le_iff_toNat_le] at le
    rw [UInt64.toNat_zero]
    omega

theorem checkedMul_eq_some {a b c : UInt64} :
    checkedMul a b = some c ↔ a.toNat * b.toNat = c.toNat := by
  simp only [checkedMul]
  constructor
  next =>
    intro h
    split_ifs at h with fits
    simp only [Option.some.injEq] at h
    rw [← h, UInt64.toNat_mul, Nat.mod_eq_of_lt fits]
  next =>
    intro product
    have fits : a.toNat * b.toNat < 2 ^ 64 := product ▸ c.toNat_lt
    rw [if_pos fits, Option.some.injEq]
    apply UInt64.toNat.inj
    rw [UInt64.toNat_mul, Nat.mod_eq_of_lt fits, product]

end Jts.Shared.Word
