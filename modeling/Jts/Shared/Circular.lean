import Mathlib.Data.Nat.ModEq
import Mathlib.Tactic.Common

set_option autoImplicit false

namespace Jts.Shared.Circular

-- Two sequence numbers of one window of n share a slot only when they are equal.
theorem eq_of_mod_eq {n a b : Nat} (le : a ≤ b) (window : b < a + n) (same : a % n = b % n) : a = b := by
  have difference : (b - a) % n = 0 := Nat.sub_mod_eq_zero_of_mod_eq same.symm
  have small : (b - a) % n = b - a := Nat.mod_eq_of_lt (by omega)
  omega

theorem mod_ne {n a b : Nat} (lt : a < b) (window : b < a + n) : a % n ≠ b % n := by
  intro same
  have := eq_of_mod_eq lt.le window same
  omega

variable {Value : Type}

-- The slots hold the log's values for the sequence numbers r, r + 1, ..., w - 1.
def Window (n : Nat) (slots : Nat → Value) (log : Nat → Value) (r w : Nat) : Prop :=
  ∀ s, r ≤ s → s < w → slots (s % n) = log s

namespace Window

variable {n : Nat} {slots : Nat → Value} {log : Nat → Value} {r w : Nat}

theorem empty : Window n slots log r r := by
  intro s lower upper
  omega

theorem advance {later : Nat} (window : Window n slots log r w) (le : r ≤ later) :
    Window n slots log later w :=
  fun s lower upper => window s (le.trans lower) upper

-- A store into the slot of w touches no slot of the window while the window is not full.
theorem store (window : Window n slots log r w) (space : w < r + n) (slot : Value) :
    Window n (Function.update slots (w % n) slot) log r w := by
  intro s lower upper
  have other : s % n ≠ w % n := mod_ne upper (by omega)
  rw [Function.update_of_ne other]
  exact window s lower upper

theorem publish (window : Window n slots log r w) (payload : slots (w % n) = log w) :
    Window n slots log r (w + 1) := by
  intro s lower upper
  by_cases last : s = w
  next => rw [last, payload]
  next => exact window s lower (by omega)

theorem log_congr {log' : Nat → Value} (window : Window n slots log r w)
    (same : ∀ s, r ≤ s → s < w → log' s = log s) : Window n slots log' r w := by
  intro s lower upper
  rw [window s lower upper, same s lower upper]

-- The newest value overwrites the oldest: the last n of the log stay in place, whoever still reads them.
theorem append {last : List Value} {default : Value}
    (window : Window n slots (fun s => last.getD s default) (last.length - n) last.length) (value : Value) :
    Window n (Function.update slots (last.length % n) value) (fun s => (last ++ [value]).getD s default)
      (last.length + 1 - n) (last.length + 1) := by
  have kept : Window n slots (fun s => last.getD s default) (last.length + 1 - n) last.length :=
    window.advance (by omega)
  have stored := kept.store (by omega) value
  have relabelled : Window n (Function.update slots (last.length % n) value)
      (fun s => (last ++ [value]).getD s default) (last.length + 1 - n) last.length := by
    refine stored.log_congr fun s lower upper => ?_
    simp [List.getD_eq_getElem?_getD, List.getElem?_append_left upper]
  exact relabelled.publish (by simp)

end Window

end Jts.Shared.Circular
