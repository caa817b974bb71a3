import Mathlib.Data.List.Basic
import Mathlib.Tactic.Common

set_option autoImplicit false

namespace Jts.Shared.Lines

variable {α : Type} {boundary fine coarse : α → Bool} {item : α} {line text : List α}

/-- The lines of a text, each ended by a boundary or by the end of the text. -/
def lines (boundary : α → Bool) : List α → List (List α)
  | [] => []
  | item :: text =>
      if boundary item then [] :: lines boundary text
      else match lines boundary text with
        | [] => [[item]]
        | line :: rest => (item :: line) :: rest

def Clean (boundary : α → Bool) (line : List α) : Prop := ∀ item ∈ line, boundary item = false

instance (boundary : α → Bool) (line : List α) : Decidable (Clean boundary line) :=
  inferInstanceAs (Decidable (∀ item ∈ line, boundary item = false))

def ended (item : α) (lines : List (List α)) : List α := lines.flatMap (· ++ [item])

theorem Clean.append {left right : List α} (first : Clean boundary left) (second : Clean boundary right) :
    Clean boundary (left ++ right) := by
  intro item mem
  rcases List.mem_append.mp mem with mem | mem
  · exact first item mem
  · exact second item mem

theorem Clean.of_subset {other : List α} (clean : Clean boundary line) (subset : other ⊆ line) : Clean boundary other :=
  fun item mem => clean item (subset mem)

theorem Clean.weaken (clean : Clean fine line) (weaker : ∀ item, coarse item = true → fine item = true) : Clean coarse line := by
  intro item mem
  by_contra ends
  exact Bool.false_ne_true ((clean item mem).symm.trans (weaker item (by simpa using ends)))

theorem lines_boundary (ends : boundary item = true) (text : List α) : lines boundary (item :: text) = [] :: lines boundary text := by
  rw [lines, if_pos ends]

theorem lines_append_line (clean : Clean boundary line) (ends : boundary item = true) (text : List α) :
    lines boundary (line ++ item :: text) = line :: lines boundary text := by
  induction line with
  | nil => exact lines_boundary ends text
  | cons first line ih =>
      have inner : boundary first = false := clean first List.mem_cons_self
      rw [List.cons_append, lines, if_neg (by simp [inner]), ih fun item mem => clean item (List.mem_cons_of_mem _ mem)]

theorem lines_clean (clean : Clean boundary line) (some : line ≠ []) : lines boundary line = [line] := by
  induction line with
  | nil => exact absurd rfl some
  | cons first line ih =>
      have inner : boundary first = false := clean first List.mem_cons_self
      rw [lines, if_neg (by simp [inner])]
      cases line with
      | nil => rfl
      | cons second line => rw [ih (fun item mem => clean item (List.mem_cons_of_mem _ mem)) (List.cons_ne_nil _ _)]

theorem lines_ne_nil (some : text ≠ []) : lines boundary text ≠ [] := by
  cases text with
  | nil => exact absurd rfl some
  | cons item text =>
      rw [lines]
      split
      · exact List.cons_ne_nil _ _
      · split
        · exact List.cons_ne_nil _ _
        · exact List.cons_ne_nil _ _

-- What stands before a boundary and what stands after it are read apart.
theorem lines_append (ends : boundary item = true) (before after : List α) :
    lines boundary (before ++ item :: after) = lines boundary (before ++ [item]) ++ lines boundary after := by
  induction before with
  | nil =>
      rw [List.nil_append, List.nil_append, lines_boundary ends, lines_boundary ends]
      rfl
  | cons first before ih =>
      rw [List.cons_append, List.cons_append, lines, lines, ih]
      split
      · rfl
      · cases cut : lines boundary (before ++ [item]) with
        | nil => exact absurd cut (lines_ne_nil (List.append_ne_nil_of_right_ne_nil _ (List.cons_ne_nil _ _)))
        | cons line rest => rfl

-- A boundary at the end makes no line, but for the empty one that a boundary before it ends.
theorem lines_concat (ends : boundary item = true) (text : List α) :
    lines boundary (text ++ [item]) = lines boundary text ∨ lines boundary (text ++ [item]) = lines boundary text ++ [[]] := by
  induction text with
  | nil =>
      refine .inr ?_
      rw [List.nil_append, lines_boundary ends]
      rfl
  | cons first text ih =>
      rw [List.cons_append, lines, lines]
      split
      · rcases ih with same | longer
        · exact .inl (congrArg ([] :: ·) same)
        · exact .inr (congrArg ([] :: ·) longer)
      · rcases ih with same | longer
        · rw [same]
          exact .inl rfl
        · rw [longer]
          cases lines boundary text with
          | nil => exact .inl rfl
          | cons line rest => exact .inr rfl

theorem lines_ends {other : α} (ends : boundary item = true) (otherEnds : boundary other = true) (text : List α) :
    lines boundary (text ++ [item]) = lines boundary (text ++ [other]) := by
  induction text with
  | nil => rw [List.nil_append, List.nil_append, lines_boundary ends, lines_boundary otherEnds]
  | cons first text ih => rw [List.cons_append, List.cons_append, lines, lines, ih]

theorem clean_of_mem (mem : line ∈ lines boundary text) : Clean boundary line := by
  induction text generalizing line with
  | nil => exact absurd mem List.not_mem_nil
  | cons first text ih =>
      rw [lines] at mem
      split at mem
      · rcases List.mem_cons.mp mem with rfl | mem
        · exact fun item mem => absurd mem List.not_mem_nil
        · exact ih mem
      next inner =>
        have alone : boundary first = false := by simpa using inner
        have headed {rest : List α} (clean : Clean boundary rest) : Clean boundary (first :: rest) := by
          intro item mem
          rcases List.mem_cons.mp mem with rfl | mem
          · exact alone
          · exact clean item mem
        split at mem
        · rw [List.mem_singleton.mp mem]
          exact headed fun item mem => absurd mem List.not_mem_nil
        next head rest cut =>
          rcases List.mem_cons.mp mem with rfl | mem
          · exact headed (ih (cut ▸ List.mem_cons_self))
          · exact ih (cut ▸ List.mem_cons_of_mem _ mem)

theorem lines_ended (ends : boundary item = true) {all : List (List α)} (clean : ∀ line ∈ all, Clean boundary line) :
    lines boundary (ended item all) = all := by
  induction all with
  | nil => rfl
  | cons line all ih =>
      rw [ended, List.flatMap_cons, List.append_assoc, List.singleton_append, lines_append_line (clean line List.mem_cons_self) ends]
      exact congrArg (line :: ·) (ih fun line mem => clean line (List.mem_cons_of_mem _ mem))

/-- A text is its first line and the rest, or it is a line that nothing ends. -/
theorem line_induction (boundary : α → Bool) {motive : List α → Prop} (tail : ∀ line, Clean boundary line → motive line)
    (first : ∀ line item text, Clean boundary line → boundary item = true → motive text → motive (line ++ item :: text))
    (text : List α) : motive text := by
  have ahead : ∀ line, Clean boundary line → motive (line ++ text) := by
    induction text with
    | nil =>
        intro line clean
        rw [List.append_nil]
        exact tail line clean
    | cons item text ih =>
        intro line clean
        by_cases ends : boundary item = true
        · exact first line item text clean ends (ih [] fun item mem => absurd mem List.not_mem_nil)
        · have longer := ih (line ++ [item]) (clean.append fun other mem => by
            rw [List.mem_singleton.mp mem]
            simpa using ends)
          rwa [List.append_assoc, List.singleton_append] at longer
  exact ahead [] fun item mem => absurd mem List.not_mem_nil

end Jts.Shared.Lines
