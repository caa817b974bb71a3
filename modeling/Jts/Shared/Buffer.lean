import Mathlib.Data.List.OfFn
import Mathlib.Tactic.Common

set_option autoImplicit false

namespace Jts.Shared.Buffer

variable {size : Nat} {Byte : Type}

/-- memcpy into a buffer of fixed size: what lies past its end is not written. -/
def copyInto (buffer : Fin size → Byte) (offset : Nat) (source : List Byte) : Fin size → Byte :=
  fun index => if offset ≤ index.val then source.getD (index.val - offset) (buffer index) else buffer index

def held (buffer : Fin size → Byte) (count : Nat) : List Byte := (List.ofFn buffer).take count

def unread (buffer : Fin size → Byte) (origin : Nat) : List Byte := (List.ofFn buffer).drop origin

theorem held_all (buffer : Fin size → Byte) {count : Nat} (all : size ≤ count) : held buffer count = List.ofFn buffer :=
  List.take_of_length_le (by rwa [List.length_ofFn])

@[simp] theorem held_zero (buffer : Fin size → Byte) : held buffer 0 = [] := rfl

@[simp] theorem unread_zero (buffer : Fin size → Byte) : unread buffer 0 = List.ofFn buffer := rfl

theorem unread_all (buffer : Fin size → Byte) {origin : Nat} (all : size ≤ origin) : unread buffer origin = [] :=
  List.drop_of_length_le (by rwa [List.length_ofFn])

-- A copy behind what is held appends to it.
theorem held_copyInto (buffer : Fin size → Byte) {offset : Nat} {source : List Byte}
    (fits : offset + source.length ≤ size) :
    held (copyInto buffer offset source) (offset + source.length) = held buffer offset ++ source := by
  apply List.ext_getElem?
  intro index
  simp only [held, List.getElem?_take, List.getElem?_append, List.length_take, List.length_ofFn,
    Nat.min_eq_left (show offset ≤ size by omega)]
  split_ifs with inside before before
  next =>
    rw [List.getElem?_ofFn, List.getElem?_ofFn, dif_pos (by omega), dif_pos (by omega), copyInto,
      if_neg (show ¬offset ≤ index by omega)]
  next =>
    have within : index - offset < source.length := by omega
    rw [List.getElem?_ofFn, dif_pos (by omega), copyInto]
    simp only [if_pos (show offset ≤ index by omega), List.getElem?_eq_getElem within, List.getD_eq_getElem?_getD,
      Option.getD_some]
  next => omega
  next => exact (List.getElem?_eq_none (by omega)).symm

-- Reading on takes the next bytes of what is unread.
theorem unread_take (buffer : Fin size → Byte) (origin count : Nat) :
    (unread buffer origin).take count ++ unread buffer (origin + count) = unread buffer origin := by
  rw [unread, unread, ← List.drop_drop, List.take_append_drop]

theorem take_drop_next {source : List Byte} (consumed count : Nat) :
    source.take consumed ++ (source.drop consumed).take count = source.take (consumed + count) := by
  rw [List.take_add]

end Jts.Shared.Buffer
