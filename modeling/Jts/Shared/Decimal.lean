import Mathlib.Data.Nat.Digits.Lemmas
import Mathlib.Tactic.Common

set_option autoImplicit false

namespace Jts.Shared.Decimal

def digit (value : Nat) : UInt8 := (48 + value).toUInt8

def isDigit (byte : UInt8) : Bool := 48 ≤ byte.toNat && byte.toNat ≤ 57

/-- The number that a run of ASCII digits spells. -/
def value (text : List UInt8) : Nat := text.foldl (fun read byte => 10 * read + (byte.toNat - 48)) 0

/-- A natural number without leading zeros. -/
def write (number : Nat) : List UInt8 :=
  if number = 0 then [digit 0] else ((Nat.digits 10 number).map digit).reverse

/-- The last digits of a number, zeros included. -/
def writeLast : Nat → Nat → List UInt8
  | 0, _ => []
  | places + 1, number => writeLast places (number / 10) ++ [digit (number % 10)]

-- The nearest quotient, ties to the even one.
def roundHalfEven (dividend divisor : Nat) : Nat :=
  let floor := dividend / divisor
  let twice := 2 * (dividend % divisor)
  if divisor < twice ∨ (twice = divisor ∧ floor % 2 = 1) then floor + 1 else floor

theorem digit_toNat {value : Nat} (small : value < 10) : (digit value).toNat = 48 + value := by
  simp only [digit, Nat.toUInt8, UInt8.toNat_ofNat']
  omega

theorem isDigit_digit {value : Nat} (small : value < 10) : isDigit (digit value) = true := by
  simp only [isDigit, digit_toNat small]
  simp
  omega

@[simp] theorem value_nil : value [] = 0 := rfl

theorem foldl_value (text : List UInt8) (start : Nat) :
    text.foldl (fun read byte => 10 * read + (byte.toNat - 48)) start = start * 10 ^ text.length + value text := by
  induction text generalizing start with
  | nil => simp
  | cons byte text ih =>
      rw [value, List.foldl_cons, List.foldl_cons, ih, ih (10 * 0 + _), List.length_cons, Nat.pow_succ]
      ring

theorem value_append (high low : List UInt8) : value (high ++ low) = value high * 10 ^ low.length + value low := by
  rw [value, List.foldl_append, foldl_value]
  rfl

theorem value_digit {number : Nat} (small : number < 10) : value [digit number] = number := by
  simp [value, digit_toNat small]

theorem value_reverse_digits (digits : List Nat) (small : ∀ value ∈ digits, value < 10) :
    value (digits.map digit).reverse = Nat.ofDigits 10 digits := by
  induction digits with
  | nil => rfl
  | cons first digits ih =>
      rw [List.map_cons, List.reverse_cons, value_append, ih fun value mem => small value (List.mem_cons_of_mem _ mem),
        value_digit (small first List.mem_cons_self), Nat.ofDigits_cons]
      simp
      ring

theorem value_write (number : Nat) : value (write number) = number := by
  by_cases zero : number = 0
  · subst zero
    rfl
  · rw [write, if_neg zero, value_reverse_digits _ fun value mem => Nat.digits_lt_base (by decide) mem,
      Nat.ofDigits_digits]

theorem isDigit_of_mem_write {number : Nat} {byte : UInt8} (mem : byte ∈ write number) : isDigit byte = true := by
  by_cases zero : number = 0
  · rw [write, if_pos zero, List.mem_singleton] at mem
    exact mem ▸ isDigit_digit (by decide)
  · rw [write, if_neg zero, List.mem_reverse, List.mem_map] at mem
    obtain ⟨value, mem, rfl⟩ := mem
    exact isDigit_digit (Nat.digits_lt_base (by decide) mem)

theorem write_ne_nil (number : Nat) : write number ≠ [] := by
  by_cases zero : number = 0
  · simp [write, zero]
  · simp [write, zero, Nat.digits_ne_nil_iff_ne_zero]

@[simp] theorem length_writeLast (places number : Nat) : (writeLast places number).length = places := by
  induction places generalizing number with
  | zero => rfl
  | succ places ih => simp [writeLast, ih]

theorem isDigit_of_mem_writeLast {places number : Nat} {byte : UInt8} (mem : byte ∈ writeLast places number) :
    isDigit byte = true := by
  induction places generalizing number with
  | zero => cases mem
  | succ places ih =>
      rw [writeLast, List.mem_append, List.mem_singleton] at mem
      rcases mem with mem | rfl
      · exact ih mem
      · exact isDigit_digit (Nat.mod_lt _ (by decide))

theorem value_writeLast (places number : Nat) : value (writeLast places number) = number % 10 ^ places := by
  induction places generalizing number with
  | zero => simp [writeLast, Nat.mod_one]
  | succ places ih =>
      rw [writeLast, value_append, ih, value_digit (Nat.mod_lt _ (by decide)), List.length_singleton,
        Nat.pow_succ' (n := places), Nat.mod_mul]
      omega

/-- A fixed-point text spells the scaled number again once its point is dropped. -/
theorem value_fixed (places scaled : Nat) :
    value (write (scaled / 10 ^ places) ++ writeLast places scaled) = scaled := by
  rw [value_append, value_write, value_writeLast, length_writeLast, Nat.mul_comm]
  exact Nat.div_add_mod scaled (10 ^ places)

-- A number that is not zero starts with a digit that is not zero, so no cut of it reads as zero.
theorem head_write_ne_zero {number : Nat} (positive : number ≠ 0) :
    ∃ (first : Nat) (rest : List UInt8), write number = digit first :: rest ∧ 0 < first ∧ first < 10 := by
  have nonempty : Nat.digits 10 number ≠ [] := Nat.digits_ne_nil_iff_ne_zero.mpr positive
  refine ⟨(Nat.digits 10 number).getLast nonempty, ((Nat.digits 10 number).dropLast.map digit).reverse, ?_, ?_, ?_⟩
  · rw [write, if_neg positive]
    conv_lhs => rw [← List.dropLast_append_getLast nonempty]
    simp
  · exact Nat.pos_of_ne_zero (Nat.getLast_digit_ne_zero 10 positive)
  · exact Nat.digits_lt_base (by decide) (List.getLast_mem nonempty)

theorem value_take_write_pos {number length : Nat} (positive : number ≠ 0) (some : 0 < length) :
    0 < value ((write number).take length) := by
  obtain ⟨first, rest, eq, low, high⟩ := head_write_ne_zero positive
  obtain ⟨length, rfl⟩ := Nat.exists_eq_succ_of_ne_zero some.ne'
  rw [eq, List.take_succ_cons, ← List.singleton_append, value_append, value_digit high]
  have := Nat.pow_pos (n := (rest.take length).length) (show 0 < 10 by decide)
  positivity

end Jts.Shared.Decimal
