import Mathlib.Data.List.Basic
import Mathlib.Data.List.Infix
import Mathlib.Data.List.TakeWhile
import Mathlib.Tactic.Common

set_option autoImplicit false

namespace Jts.Shared.Line

def newline : UInt8 := 10

def space : UInt8 := 32

def ascii (text : String) : List UInt8 := text.toList.map fun char => char.toNat.toUInt8

/-- The bytes up to the first newline, which is kept. -/
def throughNewline : List UInt8 → List UInt8
  | [] => []
  | byte :: bytes => if byte = newline then [byte] else byte :: throughNewline bytes

def trimEnd (text : List UInt8) : List UInt8 :=
  (text.reverse.dropWhile fun byte => byte == 13 || byte == newline).reverse

def stripPrefix (word text : List UInt8) : Option (List UInt8) :=
  if word.isPrefixOf text then some (text.drop word.length) else none

def fields (text : List UInt8) : List (List UInt8) := text.splitOn space

def joined (fields : List (List UInt8)) : List UInt8 := [space].intercalate fields

-- The byte ranges of the well-formed sequences: no overlong form, no surrogate, nothing past U+10FFFF.
def within (low high byte : UInt8) : Bool := low ≤ byte && byte ≤ high

def utf8Valid : List UInt8 → Bool
  | [] => true
  | first :: text =>
      if first < 0x80 then utf8Valid text
      else match text with
        | [] => false
        | second :: text =>
            if within 0xC2 0xDF first then within 0x80 0xBF second && utf8Valid text
            else match text with
              | [] => false
              | third :: text =>
                  if within 0xE0 0xEF first then
                    within (if first = 0xE0 then 0xA0 else 0x80) (if first = 0xED then 0x9F else 0xBF) second &&
                      within 0x80 0xBF third && utf8Valid text
                  else match text with
                    | [] => false
                    | fourth :: text =>
                        within 0xF0 0xF4 first &&
                          within (if first = 0xF0 then 0x90 else 0x80) (if first = 0xF4 then 0x8F else 0xBF) second &&
                          within 0x80 0xBF third && within 0x80 0xBF fourth && utf8Valid text

theorem utf8Valid_of_ascii {text : List UInt8} (small : ∀ byte ∈ text, byte < 0x80) : utf8Valid text = true := by
  induction text with
  | nil => rfl
  | cons first text ih =>
      rw [utf8Valid.eq_def]
      dsimp only
      rw [if_pos (small first List.mem_cons_self)]
      exact ih fun byte mem => small byte (List.mem_cons_of_mem _ mem)

theorem throughNewline_isPrefix (text : List UInt8) : throughNewline text <+: text := by
  induction text with
  | nil => exact List.prefix_rfl
  | cons byte text ih =>
      rw [throughNewline]
      split
      · exact ⟨text, rfl⟩
      · exact List.cons_prefix_cons.mpr ⟨rfl, ih⟩

theorem throughNewline_eq_self {text : List UInt8} (none : newline ∉ text) : throughNewline text = text := by
  induction text with
  | nil => rfl
  | cons byte text ih =>
      rw [List.mem_cons, not_or] at none
      rw [throughNewline, if_neg (Ne.symm none.1), ih none.2]

theorem throughNewline_append {text : List UInt8} (none : newline ∉ text) (rest : List UInt8) :
    throughNewline (text ++ newline :: rest) = text ++ [newline] := by
  induction text with
  | nil => rfl
  | cons byte text ih =>
      rw [List.mem_cons, not_or] at none
      rw [List.cons_append, throughNewline, if_neg (Ne.symm none.1), ih none.2, List.cons_append]

/-- A text that the line ending does not trim: it holds no carriage return and no newline. -/
def Unbroken (text : List UInt8) : Prop := newline ∉ text ∧ (13 : UInt8) ∉ text

theorem Unbroken.take {text : List UInt8} (unbroken : Unbroken text) (length : Nat) : Unbroken (text.take length) :=
  ⟨fun mem => unbroken.1 (List.mem_of_mem_take mem), fun mem => unbroken.2 (List.mem_of_mem_take mem)⟩

theorem trimEnd_eq_self {text : List UInt8} (unbroken : Unbroken text) : trimEnd text = text := by
  have stays : text.reverse.dropWhile (fun byte => byte == 13 || byte == newline) = text.reverse := by
    rw [List.dropWhile_eq_self_iff]
    intro positive
    have mem : text.reverse[0] ∈ text := List.mem_reverse.mp (List.getElem_mem _)
    simp only [Bool.or_eq_true, beq_iff_eq, not_or]
    exact ⟨fun eq => unbroken.2 (eq ▸ mem), fun eq => unbroken.1 (eq ▸ mem)⟩
  rw [trimEnd, stays, List.reverse_reverse]

theorem trimEnd_newline {text : List UInt8} (unbroken : Unbroken text) : trimEnd (text ++ [newline]) = text := by
  rw [trimEnd, List.reverse_append]
  exact trimEnd_eq_self unbroken

theorem stripPrefix_append (word text : List UInt8) : stripPrefix word (word ++ text) = some text := by
  simp [stripPrefix]

theorem fields_joined {parts : List (List UInt8)} (some : parts ≠ []) (none : ∀ part ∈ parts, space ∉ part) :
    fields (joined parts) = parts :=
  List.splitOn_intercalate space none some

@[simp] theorem joined_singleton (part : List UInt8) : joined [part] = part := by simp [joined, List.intercalate]

theorem joined_cons {parts : List (List UInt8)} (some : parts ≠ []) (part : List UInt8) :
    joined (part :: parts) = part ++ space :: joined parts := by
  obtain ⟨next, parts, rfl⟩ := List.exists_cons_of_ne_nil some
  simp [joined, List.intercalate, List.intersperse]

theorem mem_joined {parts : List (List UInt8)} {byte : UInt8} (mem : byte ∈ joined parts) :
    byte = space ∨ ∃ part ∈ parts, byte ∈ part := by
  induction parts with
  | nil => simp [joined] at mem
  | cons part parts ih =>
      by_cases some : parts = []
      · subst some
        rw [joined_singleton] at mem
        exact .inr ⟨part, List.mem_cons_self, mem⟩
      · rw [joined_cons some, List.mem_append, List.mem_cons] at mem
        rcases mem with mem | rfl | mem
        · exact .inr ⟨part, List.mem_cons_self, mem⟩
        · exact .inl rfl
        · rcases ih mem with eq | ⟨other, there, mem⟩
          · exact .inl eq
          · exact .inr ⟨other, List.mem_cons_of_mem _ there, mem⟩

/-- A line as it is read: up to one byte more than the limit, and its line feed when that comes first. -/
def readLine (limit : Nat) (bytes : List UInt8) : List UInt8 := throughNewline (bytes.take (limit + 1))

theorem readLine_isPrefix (limit : Nat) (bytes : List UInt8) : readLine limit bytes <+: bytes :=
  (throughNewline_isPrefix _).trans (List.take_prefix _ _)

-- A short line is read whole, and what follows it is left.
theorem readLine_append {limit : Nat} {text : List UInt8} (none : newline ∉ text) (short : text.length < limit)
    (rest : List UInt8) : readLine limit (text ++ newline :: rest) = text ++ [newline] := by
  obtain ⟨left, eq⟩ := Nat.exists_eq_add_of_lt short
  have cut : (text ++ newline :: rest).take (limit + 1) = text ++ newline :: rest.take (left + 1) := by
    rw [List.take_append, List.take_of_length_le (by omega), show limit + 1 - text.length = left + 1 + 1 by omega]
    rfl
  rw [readLine, cut, throughNewline_append none]

theorem readLine_of_not_mem {limit : Nat} {text : List UInt8} (none : newline ∉ text) :
    readLine limit text = text.take (limit + 1) :=
  throughNewline_eq_self fun mem => none (List.mem_of_mem_take mem)

theorem length_readLine_long {limit : Nat} {text : List UInt8} (none : newline ∉ text) (long : limit ≤ text.length)
    (rest : List UInt8) : (readLine limit (text ++ newline :: rest)).length = limit + 1 := by
  by_cases last : text.length = limit
  · rw [readLine, List.take_append, List.take_of_length_le (by omega), show limit + 1 - text.length = 0 + 1 by omega,
      List.take_succ_cons, List.take_zero, throughNewline_append none, List.length_append, last]
    rfl
  · rw [readLine, List.take_append_of_le_length (by omega),
      throughNewline_eq_self fun mem => none (List.mem_of_mem_take mem), List.length_take]
    omega

end Jts.Shared.Line
