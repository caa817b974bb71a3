import Jts.Tts.WireReader

set_option autoImplicit false

namespace Jts.Tts

open Shared.Line
open Shared.Decimal (isDigit value write writeLast)

/-- The bytes of a field: ASCII, and none that ends the field or the line. -/
def Plain (text : Token) : Prop := ∀ byte ∈ text, byte < 0x80 ∧ byte ≠ space ∧ byte ≠ newline ∧ byte ≠ 13

-- Looks at the bytes of the text, not at all that there are.
instance (text : Token) : Decidable (Plain text) := List.decidableBAll _ text

theorem Plain.append {first second : Token} (left : Plain first) (right : Plain second) : Plain (first ++ second) := by
  intro byte mem
  rcases List.mem_append.mp mem with mem | mem
  · exact left byte mem
  · exact right byte mem

theorem plain_of_digits {text : Token} (digits : ∀ byte ∈ text, isDigit byte = true) : Plain text := by
  intro byte mem
  have digit := digits byte mem
  simp only [isDigit, Bool.and_eq_true, decide_eq_true_eq] at digit
  refine ⟨UInt8.lt_iff_toNat_lt.mpr (by simp; omega), ?_, ?_, ?_⟩ <;>
    · rintro rfl
      revert digit
      decide

theorem plain_write (number : Nat) : Plain (write number) :=
  plain_of_digits fun _ mem => Shared.Decimal.isDigit_of_mem_write mem

theorem plain_signText (negative : Bool) : Plain (signText negative) := by
  cases negative <;> decide +kernel

theorem Rounded.plain (level : Rounded) : Plain level.text := by
  cases level with
  | number negative places scaled =>
      have point : Plain (ascii ".") := by decide +kernel
      exact (((plain_signText negative).append (plain_write _)).append point).append
        (plain_of_digits fun _ mem => Shared.Decimal.isDigit_of_mem_writeLast mem)
  | infinite negative => cases negative <;> decide +kernel
  | nan => decide +kernel

theorem plain_intText (number : Int) : Plain (intText number) :=
  (plain_signText _).append (plain_write _)

-- A text that starts with a digit has no sign to drop.
theorem unsigned_of_digits {text : Token} (digits : ∀ byte ∈ text.head?, isDigit byte = true) :
    withoutPlus text = text ∧ withoutSign text = text ∧ text.head? ≠ some 45 := by
  match text with
  | [] => exact ⟨rfl, rfl, by simp⟩
  | first :: rest =>
      have digit : isDigit first = true := digits first rfl
      have notMinus : first ≠ 45 := by rintro rfl; revert digit; decide
      have notPlus : first ≠ 43 := by rintro rfl; revert digit; decide
      have plus : withoutPlus (first :: rest) = first :: rest := by
        unfold withoutPlus
        split
        · rename_i eq
          exact absurd (List.cons.inj eq).1 notPlus
        · rfl
      refine ⟨plus, ?_, by simpa using notMinus⟩
      unfold withoutSign
      split
      · rename_i eq
        exact absurd (List.cons.inj eq).1 notMinus
      · exact plus

theorem digits_head_write (number : Nat) (rest : Token) :
    ∀ byte ∈ (write number ++ rest).head?, isDigit byte = true := by
  obtain ⟨first, digits, eq⟩ := List.exists_cons_of_ne_nil (Shared.Decimal.write_ne_nil number)
  intro byte mem
  rw [eq] at mem
  obtain rfl : first = byte := by simpa using mem
  exact @Shared.Decimal.isDigit_of_mem_write number first (eq ▸ List.mem_cons_self)

/-- A length or a stamp is read back as it was written, and refused past 64 bits. -/
theorem parseUnsigned_write (number : Nat) :
    parseUnsigned (write number) = if number < 2 ^ 64 then some number else none := by
  have unsigned := (unsigned_of_digits (by simpa using digits_head_write number [])).1
  have digits : (write number).all isDigit = true :=
    List.all_eq_true.mpr fun _ mem => Shared.Decimal.isDigit_of_mem_write mem
  simp [parseUnsigned, unsigned, digits, Shared.Decimal.write_ne_nil, Shared.Decimal.value_write]

theorem parseNumber_fixed (places scaled : Nat) :
    parseNumber (write (scaled / 10 ^ places) ++ ascii "." ++ writeLast places scaled) =
      some (scaled, -(places : Int)) := by
  have whole : ∀ byte ∈ write (scaled / 10 ^ places), isDigit byte = true :=
    fun _ mem => Shared.Decimal.isDigit_of_mem_write mem
  have part : ∀ byte ∈ writeLast places scaled, isDigit byte = true :=
    fun _ mem => Shared.Decimal.isDigit_of_mem_writeLast mem
  have point : ascii "." = [46] := by decide
  have stop : isDigit 46 = false := by decide
  have before : (46 :: writeLast places scaled).takeWhile isDigit = [] := by simp [stop]
  have after : (46 :: writeLast places scaled).dropWhile isDigit = 46 :: writeLast places scaled := by simp [stop]
  rw [point, List.append_assoc, List.singleton_append]
  simp only [parseNumber, List.takeWhile_append_of_pos whole, List.dropWhile_append_of_pos whole, before, after,
    List.append_nil, List.takeWhile_eq_self_iff.mpr part, List.dropWhile_eq_nil_iff.mpr part,
    Shared.Decimal.write_ne_nil, false_and, if_false, Shared.Decimal.value_fixed, Shared.Decimal.length_writeLast]

/-- A printed level is read back as the nearest `f32` of what was printed. -/
theorem parseF32_text (level : Rounded) : parseF32 level.text = some level.toF32 := by
  cases level with
  | number negative places scaled =>
      have unsigned := unsigned_of_digits
        (digits_head_write (scaled / 10 ^ places) (ascii "." ++ writeLast places scaled))
      rw [← List.append_assoc] at unsigned
      have read : ∀ text : Token, withoutSign text = write (scaled / 10 ^ places) ++ ascii "." ++ writeLast places scaled →
          decide (text.head? = some 45) = negative → parseF32 text = some (.nearest negative scaled (10 ^ places)) := by
        intro text body sign
        rw [parseF32, body, parseNumber_fixed]
        simp [sign]
      cases negative with
      | false => exact read _ unsigned.2.1 (by simpa [Rounded.text, signText] using unsigned.2.2)
      | true => exact read _ (by simp [Rounded.text, signText, ascii, withoutSign]) (by simp [Rounded.text, signText, ascii])
  | infinite negative => cases negative <;> decide
  | nan => decide

end Jts.Tts
