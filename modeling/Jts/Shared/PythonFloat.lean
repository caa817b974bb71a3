import Jts.Shared.Floating
import Jts.Shared.PythonJson
import Mathlib.Algebra.Order.Monoid.WithTop
import Mathlib.Tactic.Linarith

set_option autoImplicit false

namespace Jts.Shared.PythonJson

-- `float(raw)`
def floatOf (floatOfText : String → Option PyFloat) : Json → Except PyError PyFloat
  | .bool value => .ok (.finite (if value then 1 else 0))
  | .int value => floatOfInt value
  | .float value => .ok value
  | .str text =>
      match floatOfText text with
      | none => .error .value
      | some value => .ok value
  | .null | .list _ | .dict _ => .error .type

namespace PyFloat

-- `max` and `min` keep their first argument unless the second one is past it.
def pyMax (first second : PyFloat) : PyFloat := if first.lt second then second else first

def pyMin (first second : PyFloat) : PyFloat := if second.lt first then second else first

def maxOf : List PyFloat → Except PyError PyFloat
  | [] => .error .value
  | first :: rest => .ok (rest.foldl pyMax first)

def eq (left right : PyFloat) : Bool := left != .nan && left == right

open Floating (binary64)

-- The float that is nearest to a number; one past them all is infinite.
def ofRat (value : ℚ) : PyFloat :=
  if 2 ^ 1024 ≤ |binary64.nearest value| then .infinity (decide (value < 0)) else .finite (binary64.nearest value)

def rounded : PyFloat → PyFloat
  | .finite value => ofRat value
  | .infinity negative => .infinity negative
  | .nan => .nan

def minus (eps : ℚ) : PyFloat → PyFloat
  | .finite value => ofRat (value - eps)
  | .infinity negative => .infinity negative
  | .nan => .nan

/-- Where a number stands between the infinities. -/
def extended : PyFloat → WithBot (WithTop ℚ)
  | .finite value => ((value : WithTop ℚ) : WithBot (WithTop ℚ))
  | .infinity false => ((⊤ : WithTop ℚ) : WithBot (WithTop ℚ))
  | .infinity true | .nan => ⊥

theorem extended_inj {left right : PyFloat} (number : left ≠ .nan) (other : right ≠ .nan) (same : left.extended = right.extended) :
    left = right := by
  cases left with
  | nan => exact absurd rfl number
  | finite left =>
      cases right with
      | nan => exact absurd rfl other
      | finite right => simpa [extended] using same
      | infinity negative => cases negative <;> simp [extended] at same
  | infinity below =>
      cases right with
      | nan => exact absurd rfl other
      | finite right => cases below <;> simp [extended] at same
      | infinity negative => cases below <;> cases negative <;> simp [extended] at same ⊢

theorem lt_iff {left right : PyFloat} : left.lt right = true ↔ left ≠ .nan ∧ right ≠ .nan ∧ left.extended < right.extended := by
  cases left with
  | nan => cases right <;> simp [lt]
  | finite left =>
      cases right with
      | nan => simp [lt]
      | finite right => simp [lt, extended]
      | infinity negative =>
          have top : (left : WithTop ℚ) < ⊤ := WithTop.coe_lt_top left
          cases negative <;> simp only [lt, extended, WithBot.coe_lt_coe, top] <;> simp
  | infinity below =>
      cases right with
      | nan => simp [lt]
      | finite right => cases below <;> simp [lt, extended]
      | infinity negative => cases below <;> cases negative <;> simp [lt, extended]

theorem le_iff {left right : PyFloat} : left.le right = true ↔ left ≠ .nan ∧ right ≠ .nan ∧ left.extended ≤ right.extended := by
  rw [le, Bool.or_eq_true, lt_iff]
  constructor
  · rintro (⟨number, other, less⟩ | same)
    · exact ⟨number, other, less.le⟩
    · obtain ⟨number, rfl⟩ : left ≠ .nan ∧ left = right := by simpa using same
      exact ⟨number, number, le_rfl⟩
  · rintro ⟨number, other, low⟩
    obtain less | same := low.lt_or_eq
    · exact .inl ⟨number, other, less⟩
    · exact .inr (by simp [number, ← extended_inj number other same])

theorem finite_le {left right : ℚ} : (finite left).le (finite right) = true ↔ left ≤ right := by
  simp [le_iff, extended]

theorem le_refl {value : PyFloat} (number : value ≠ .nan) : value.le value = true := le_iff.mpr ⟨number, number, le_rfl⟩

theorem le_trans {low middle high : PyFloat} (first : low.le middle = true) (second : middle.le high = true) : low.le high = true := by
  obtain ⟨number, -, below⟩ := le_iff.mp first
  obtain ⟨-, other, above⟩ := le_iff.mp second
  exact le_iff.mpr ⟨number, other, below.trans above⟩

theorem le_of_lt {left right : PyFloat} (less : left.lt right = true) : left.le right = true := by simp [le, less]

theorem le_of_not_lt {left right : PyFloat} (number : left ≠ .nan) (other : right ≠ .nan) (not : ¬ left.lt right = true) :
    right.le left = true := by
  refine le_iff.mpr ⟨other, number, not_lt.mp fun less => not ?_⟩
  exact lt_iff.mpr ⟨number, other, less⟩

theorem le_antisymm {left right : PyFloat} (low : left.le right = true) (high : right.le left = true) : left = right := by
  obtain ⟨number, other, below⟩ := le_iff.mp low
  exact extended_inj number other (below.antisymm (le_iff.mp high).2.2)

section Rounded

variable {value low high : ℚ}

@[simp] theorem ofRat_ne_nan (value : ℚ) : ofRat value ≠ .nan := by
  unfold ofRat
  split <;> nofun

theorem ofRat_of_lt (small : |binary64.nearest value| < 2 ^ 1024) : ofRat value = .finite (binary64.nearest value) :=
  if_neg (not_le.mpr small)

-- Numbers past the floats on one side are rounded to the same infinity.
theorem ofRat_mono (le : low ≤ high) : (ofRat low).le (ofRat high) = true := by
  have near := binary64.nearest_mono le
  refine le_iff.mpr ⟨ofRat_ne_nan _, ofRat_ne_nan _, ?_⟩
  by_cases below : 2 ^ 1024 ≤ |binary64.nearest low|
  · by_cases negative : low < 0
    · simp [ofRat, below, negative, extended]
    · have nonneg := binary64.nearest_nonneg (not_lt.mp negative)
      have above : 2 ^ 1024 ≤ |binary64.nearest high| := by
        rw [abs_of_nonneg nonneg] at below
        exact below.trans (near.trans (le_abs_self _))
      have other : ¬ high < 0 := by linarith
      simp [ofRat, below, negative, above, other]
  · by_cases above : 2 ^ 1024 ≤ |binary64.nearest high|
    · by_cases negative : high < 0
      · have nonpos := binary64.nearest_nonpos negative.le
        rw [abs_of_nonpos nonpos] at above
        exact absurd (above.trans ((neg_le_neg near).trans (neg_le_abs _))) below
      · simp [ofRat, below, above, negative, extended]
    · simpa [ofRat, below, above, extended] using near

@[simp] theorem rounded_ofRat (value : ℚ) : (ofRat value).rounded = ofRat value := by
  by_cases past : 2 ^ 1024 ≤ |binary64.nearest value|
  · rw [ofRat, if_pos past, rounded]
  · rw [ofRat, if_neg past, rounded, ofRat, binary64.nearest_nearest, if_neg past]

@[simp] theorem rounded_rounded (value : PyFloat) : value.rounded.rounded = value.rounded := by
  cases value with
  | finite value => exact rounded_ofRat value
  | _ => rfl

end Rounded

/-- A float as Python has it. -/
abbrev Double := {value : PyFloat // value.rounded = value}

def double (value : PyFloat) : Double := ⟨value.rounded, value.rounded_rounded⟩

theorem minus_le {value : PyFloat} (exact : value.rounded = value) (number : value ≠ .nan) {eps : ℚ} (nonneg : 0 ≤ eps) :
    (value.minus eps).le value = true := by
  cases value with
  | nan => exact absurd rfl number
  | finite value =>
      have less := @ofRat_mono (value - eps) value (by linarith)
      rwa [show ofRat value = .finite value from exact] at less
  | infinity negative => exact le_refl number

theorem minus_mono {left right : PyFloat} (eps : ℚ) (low : left.le right = true) : (left.minus eps).le (right.minus eps) = true := by
  cases left with
  | nan => simp [le_iff] at low
  | finite left =>
      cases right with
      | nan => simp [le_iff] at low
      | finite right => exact ofRat_mono (by linarith [finite_le.mp low])
      | infinity negative => cases negative <;> simp_all [le_iff, extended, minus]
  | infinity below =>
      cases right with
      | nan => simp [le_iff] at low
      | finite right => cases below <;> simp_all [le_iff, extended, minus]
      | infinity negative => exact low

theorem minus_zero {value : PyFloat} (exact : value.rounded = value) : value.minus 0 = value := by
  cases value with
  | finite value => rwa [minus, sub_zero]
  | _ => rfl

@[simp] theorem minus_eq_nan {value : PyFloat} {eps : ℚ} : value.minus eps = .nan ↔ value = .nan := by
  cases value <;> simp [minus]

theorem eq_iff {left right : PyFloat} : left.eq right = true ↔ left.le right = true ∧ right.le left = true := by
  constructor
  · intro same
    obtain ⟨number, rfl⟩ : left ≠ .nan ∧ left = right := by simpa [eq] using same
    exact ⟨le_refl number, le_refl number⟩
  · rintro ⟨low, high⟩
    obtain ⟨number, -⟩ := le_iff.mp low
    obtain rfl := le_antisymm low high
    simp [eq, number]

/-- The largest of some numbers, those that are none left out. -/
structure IsTop (values : List PyFloat) (top : PyFloat) : Prop where
  mem : top ∈ values
  number : top ≠ .nan
  above : ∀ value ∈ values, value ≠ .nan → value.le top = true

theorem IsTop.pyMax {values : List PyFloat} {top : PyFloat} (is : IsTop values top) (next : PyFloat) :
    IsTop (values ++ [next]) (top.pyMax next) := by
  unfold PyFloat.pyMax
  by_cases less : top.lt next = true
  · rw [if_pos less]
    refine ⟨by simp, (lt_iff.mp less).2.1, fun value mem some => ?_⟩
    obtain mem | mem := List.mem_append.mp mem
    · exact le_trans (is.above value mem some) (le_of_lt less)
    · exact List.mem_singleton.mp mem ▸ le_refl some
  · rw [if_neg less]
    refine ⟨List.mem_append_left _ is.mem, is.number, fun value mem some => ?_⟩
    obtain mem | mem := List.mem_append.mp mem
    · exact is.above value mem some
    · obtain rfl := List.mem_singleton.mp mem
      exact le_of_not_lt is.number some less

theorem IsTop.foldl {values rest : List PyFloat} {top : PyFloat} (is : IsTop values top) :
    IsTop (values ++ rest) (rest.foldl PyFloat.pyMax top) := by
  induction rest generalizing values top with
  | nil => simpa using is
  | cons next rest ih => simpa using ih (is.pyMax next)

-- A maximum that starts at a number passes what is none by.
theorem maxOf_isTop {first : PyFloat} (rest : List PyFloat) (number : first ≠ .nan) :
    ∃ top, maxOf (first :: rest) = .ok top ∧ IsTop (first :: rest) top := by
  have start : IsTop [first] first := by
    refine ⟨List.mem_singleton_self _, number, fun value mem some => ?_⟩
    exact List.mem_singleton.mp mem ▸ le_refl some
  exact ⟨_, rfl, start.foldl⟩

-- One that starts at nan never leaves it.
theorem maxOf_nan (rest : List PyFloat) : maxOf (.nan :: rest) = .ok .nan := by
  have stays : rest.foldl PyFloat.pyMax .nan = .nan := by
    induction rest with
    | nil => rfl
    | cons next rest ih => simpa [PyFloat.pyMax, lt] using ih
  rw [maxOf, stays]

theorem minus_top_le_iff {values : List PyFloat} {top : PyFloat} (is : IsTop values top) (eps : ℚ) (value : PyFloat) :
    (top.minus eps).le value = true ↔ value ≠ .nan ∧ ∀ other ∈ values, other ≠ .nan → (other.minus eps).le value = true := by
  constructor
  · intro near
    refine ⟨(le_iff.mp near).2.1, fun other mem number => ?_⟩
    exact le_trans (minus_mono eps (is.above other mem number)) near
  · rintro ⟨-, near⟩
    exact near top is.mem is.number

theorem eq_top_iff {values : List PyFloat} {top : PyFloat} (is : IsTop values top) (exact : top.rounded = top) {value : PyFloat}
    (mem : value ∈ values) : value.eq top = true ↔ (top.minus 0).le value = true := by
  rw [eq_iff, minus_zero exact]
  constructor
  · exact And.right
  · intro high
    exact ⟨is.above value mem (le_iff.mp high).2.1, high⟩

end PyFloat

end Jts.Shared.PythonJson
