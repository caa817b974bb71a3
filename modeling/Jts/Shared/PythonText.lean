import Jts.Shared.Lines
import Mathlib.Data.List.DropRight

set_option autoImplicit false

namespace Jts.Shared.PythonText

open Jts.Shared.Lines

abbrev Text := List Char

/-- The characters at which `str.splitlines` ends a line. -/
def isLineBreak (char : Char) : Bool :=
  0x0A ≤ char.toNat && char.toNat ≤ 0x0D || 0x1C ≤ char.toNat && char.toNat ≤ 0x1E || char.toNat = 0x85 ||
    char.toNat = 0x2028 || char.toNat = 0x2029

def isSpace (char : Char) : Bool :=
  isLineBreak char || char.toNat = 0x09 || char.toNat = 0x1F || char.toNat = 0x20 || char.toNat = 0xA0 ||
    char.toNat = 0x1680 || 0x2000 ≤ char.toNat && char.toNat ≤ 0x200A || char.toNat = 0x202F || char.toNat = 0x205F ||
    char.toNat = 0x3000

def isNewline (char : Char) : Bool := char.toNat = 0x0A

def newline : Char := Char.ofNat 0x0A

def isReturn (char : Char) : Bool := char.toNat = 0x0D

-- A return and the newline after it are one line break.
def joinReturns : Text → Text
  | [] => []
  | char :: text =>
      if isReturn char && text.head?.any isNewline then joinReturns text else char :: joinReturns text

def splitlines (text : Text) : List Text := lines isLineBreak (joinReturns text)

/-- The lines of a file whose lines are separated by newline characters. -/
def newlineLines (text : Text) : List Text := lines isNewline text

def strip (text : Text) : Text := (text.dropWhile isSpace).rdropWhile isSpace

-- `old` has a character; `taken` counts what is left of an occurrence that was replaced.
def replaceFrom (old new : Text) : ℕ → Text → Text
  | _, [] => []
  | taken + 1, _ :: rest => replaceFrom old new taken rest
  | 0, char :: rest =>
      if old.isPrefixOf (char :: rest) then new ++ replaceFrom old new (old.length - 1) rest
      else char :: replaceFrom old new 0 rest

def replace (text old new : String) : String := String.ofList (replaceFrom old.toList new.toList 0 text.toList)

theorem isLineBreak_of_isNewline {char : Char} (ends : isNewline char = true) : isLineBreak char = true := by
  simp only [isNewline, decide_eq_true_eq] at ends
  simp [isLineBreak, ends]

theorem eq_newline {char : Char} (ends : isNewline char = true) : char = newline := by
  simp only [isNewline, decide_eq_true_eq] at ends
  exact Char.ext (UInt32.toNat_inj.mp ends)

theorem isNewline_newline : isNewline newline = true := by decide

theorem isLineBreak_newline : isLineBreak newline = true := by decide

theorem not_isReturn_of_clean {char : Char} (inner : isLineBreak char = false) : isReturn char = false := by
  by_contra back
  have back : char.toNat = 0x0D := by simpa [isReturn] using back
  simp [isLineBreak, back] at inner

theorem joinReturns_clean {text : Text} (clean : Clean isReturn text) : joinReturns text = text := by
  induction text with
  | nil => rfl
  | cons char text ih =>
      rw [joinReturns, if_neg (by simp [clean char List.mem_cons_self]), ih fun item mem => clean item (List.mem_cons_of_mem _ mem)]

-- What a newline ends keeps no return of the text after it.
theorem joinReturns_append (before after : Text) :
    joinReturns (before ++ newline :: after) = joinReturns (before ++ [newline]) ++ joinReturns after := by
  induction before with
  | nil => rfl
  | cons char before ih =>
      have head : (before ++ newline :: after).head? = (before ++ [newline]).head? := by
        cases before with
        | nil => rfl
        | cons next before => rfl
      rw [List.cons_append, List.cons_append, joinReturns, joinReturns, head, ih]
      split
      · rfl
      · rfl

theorem joinReturns_ends (before : Text) : ∃ text, joinReturns (before ++ [newline]) = text ++ [newline] := by
  induction before with
  | nil => exact ⟨[], rfl⟩
  | cons char before ih =>
      obtain ⟨text, joined⟩ := ih
      rw [List.cons_append, joinReturns, joined]
      split
      · exact ⟨text, rfl⟩
      · exact ⟨char :: text, rfl⟩

theorem clean_isReturn {text : Text} (clean : Clean isLineBreak text) : Clean isReturn text :=
  fun char mem => not_isReturn_of_clean (clean char mem)

theorem splitlines_append (before after : Text) :
    splitlines (before ++ newline :: after) = splitlines (before ++ [newline]) ++ splitlines after := by
  obtain ⟨text, ends⟩ := joinReturns_ends before
  rw [splitlines, joinReturns_append, ends, List.append_assoc, List.singleton_append, lines_append isLineBreak_newline, ← ends]
  rfl

theorem splitlines_line {line : Text} (clean : Clean isLineBreak line) : splitlines (line ++ [newline]) = [line] := by
  have whole : Clean isReturn (line ++ [newline]) := (clean_isReturn clean).append (by decide)
  rw [splitlines, joinReturns_clean whole, lines_append_line clean isLineBreak_newline]
  rfl

theorem splitlines_clean {line : Text} (clean : Clean isLineBreak line) (some : line ≠ []) : splitlines line = [line] := by
  rw [splitlines, joinReturns_clean (clean_isReturn clean), lines_clean clean some]

theorem splitlines_ended {all : List Text} (clean : ∀ line ∈ all, Clean isLineBreak line) : splitlines (ended newline all) = all := by
  induction all with
  | nil => rfl
  | cons line all ih =>
      have first : splitlines (line ++ [newline]) = [line] := splitlines_line (clean line List.mem_cons_self)
      have rest := ih fun line mem => clean line (List.mem_cons_of_mem _ mem)
      rw [ended] at rest
      rw [ended, List.flatMap_cons, List.append_assoc, List.singleton_append, splitlines_append, first, rest]
      rfl

theorem clean_of_mem_splitlines {line text : Text} (mem : line ∈ splitlines text) : Clean isLineBreak line := clean_of_mem mem

theorem Clean.newlines {line : Text} (clean : Clean isLineBreak line) : Clean isNewline line :=
  clean.weaken fun _ => isLineBreak_of_isNewline

theorem newlineLines_ended {all : List Text} (clean : ∀ line ∈ all, Clean isLineBreak line) : newlineLines (ended newline all) = all :=
  lines_ended isNewline_newline fun line mem => Clean.newlines (clean line mem)

-- The lines that hold no other line break are lines of either reading.
theorem clean_newlineLines_sublist (text : Text) :
    ((newlineLines text).filter fun line => Clean isLineBreak line).Sublist (splitlines text) := by
  induction text using line_induction isNewline with
  | tail line clean =>
      cases line with
      | nil => exact List.Sublist.refl _
      | cons char line =>
          rw [newlineLines, lines_clean clean (List.cons_ne_nil _ _)]
          by_cases inner : Clean isLineBreak (char :: line)
          next => simp [inner, splitlines_clean inner (List.cons_ne_nil _ _)]
          next => simp [inner]
  | first line item text clean ends ih =>
      rw [eq_newline ends, newlineLines, lines_append_line clean isNewline_newline, splitlines_append, List.filter_cons]
      split
      next inner =>
        rw [splitlines_line (of_decide_eq_true inner)]
        exact ih.cons_cons line
      next => exact ih.trans (List.sublist_append_right _ _)

theorem joinReturns_line {line : Text} (clean : Clean isNewline line) : joinReturns line = line := by
  induction line with
  | nil => rfl
  | cons char line ih =>
      have whole : line.head?.any isNewline = false := by
        cases line with
        | nil => rfl
        | cons next line => exact clean next (List.mem_cons_of_mem _ List.mem_cons_self)
      rw [joinReturns, whole, Bool.and_false, if_neg Bool.false_ne_true, ih fun item mem => clean item (List.mem_cons_of_mem _ mem)]

theorem joinReturns_concat {line : Text} (clean : Clean isNewline line) :
    joinReturns (line ++ [newline]) = line ++ [newline] ∨
      ∃ start back, line = start ++ [back] ∧ isReturn back = true ∧ joinReturns (line ++ [newline]) = start ++ [newline] := by
  induction line with
  | nil => exact .inl rfl
  | cons char line ih =>
      have inner : Clean isNewline line := fun item mem => clean item (List.mem_cons_of_mem _ mem)
      rw [List.cons_append, joinReturns]
      cases line with
      | nil =>
          cases back : isReturn char with
          | true => exact .inr ⟨[], char, rfl, back, rfl⟩
          | false => exact .inl rfl
      | cons next line =>
          have whole : isNewline next = false := inner next List.mem_cons_self
          rw [List.cons_append, List.head?_cons, Option.any_some, whole, Bool.and_false, if_neg Bool.false_ne_true, ← List.cons_append]
          rcases ih inner with same | ⟨start, back, cut, ends, joined⟩
          · exact .inl (congrArg (char :: ·) same)
          · exact .inr ⟨char :: start, back, congrArg (char :: ·) cut, ends, congrArg (char :: ·) joined⟩

theorem isLineBreak_of_isReturn {char : Char} (back : isReturn char = true) : isLineBreak char = true := by
  simp only [isReturn, decide_eq_true_eq] at back
  simp [isLineBreak, back]

-- What is read of a text, an empty line giving nothing, is what is read of its lines.
theorem splitlines_flatMap {β : Type} (read : Text → List β) (blank : read [] = []) (text : Text) :
    (splitlines text).flatMap read = (newlineLines text).flatMap fun line => (splitlines (line ++ [newline])).flatMap read := by
  induction text using line_induction isNewline with
  | tail line clean =>
      cases line with
      | nil => rfl
      | cons char line =>
          rw [newlineLines, lines_clean clean (List.cons_ne_nil _ _), List.flatMap_singleton, splitlines, splitlines,
            joinReturns_line clean]
          rcases joinReturns_concat clean with whole | ⟨start, back, cut, ends, joined⟩
          · rw [whole]
            rcases lines_concat isLineBreak_newline (char :: line) with same | longer
            · rw [same]
            · rw [longer, List.flatMap_append, List.flatMap_singleton, blank, List.append_nil]
          · rw [joined, cut, lines_ends (isLineBreak_of_isReturn ends) isLineBreak_newline]
  | first line item text clean ends ih =>
      rw [eq_newline ends, newlineLines, lines_append_line clean isNewline_newline, splitlines_append, List.flatMap_append, ih]
      rfl

end Jts.Shared.PythonText
