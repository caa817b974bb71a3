import Mathlib.Order.Lattice
import Mathlib.Order.Defs.LinearOrder
import Mathlib.Tactic.Common

set_option autoImplicit false

namespace Jts.Shared.Extremum

variable {A : Type} [LinearOrder A]

/-- What a running maximum ends with is at least its start, and at least every value. -/
theorem le_foldl_max (values : List A) (start : A) :
    start ≤ values.foldl max start ∧ ∀ value ∈ values, value ≤ values.foldl max start := by
  induction values generalizing start with
  | nil => exact ⟨le_refl start, by simp⟩
  | cons first rest ih =>
    obtain ⟨above, below⟩ := ih (max start first)
    refine ⟨(le_max_left start first).trans above, fun other among => ?_⟩
    rcases List.mem_cons.mp among with rfl | among
    · exact (le_max_right start other).trans above
    · exact below other among

theorem foldl_max_among (values : List A) (start : A) :
    values.foldl max start = start ∨ values.foldl max start ∈ values := by
  induction values generalizing start with
  | nil => exact .inl rfl
  | cons first rest ih =>
    rw [List.foldl_cons]
    rcases ih (max start first) with same | among
    · rw [same]
      rcases le_total start first with below | above
      · rw [max_eq_right below]
        exact .inr (.head _)
      · exact .inl (max_eq_left above)
    · exact .inr (.tail _ among)

/-- It is the one value that bounds them all and is met. -/
theorem foldl_max_eq {values : List A} {start most : A} (first : start ≤ most) (bounds : ∀ value ∈ values, value ≤ most)
    (met : start = most ∨ most ∈ values) : values.foldl max start = most := by
  obtain ⟨above, below⟩ := le_foldl_max values start
  apply le_antisymm
  · obtain same | among := foldl_max_among values start
    · rw [same]
      exact first
    · exact bounds _ among
  · obtain rfl | among := met
    · exact above
    · exact below most among

theorem foldl_min_eq {values : List A} {start least : A} (first : least ≤ start) (bounds : ∀ value ∈ values, least ≤ value)
    (met : start = least ∨ least ∈ values) : values.foldl min start = least :=
  @foldl_max_eq Aᵒᵈ _ values start least first bounds met

theorem foldl_min_le (values : List A) (start : A) :
    values.foldl min start ≤ start ∧ ∀ value ∈ values, values.foldl min start ≤ value :=
  @le_foldl_max Aᵒᵈ _ values start

theorem foldl_min_among (values : List A) (start : A) :
    values.foldl min start = start ∨ values.foldl min start ∈ values :=
  @foldl_max_among Aᵒᵈ _ values start

end Jts.Shared.Extremum
