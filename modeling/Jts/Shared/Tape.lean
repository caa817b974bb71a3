import Mathlib.Data.List.Basic
import Mathlib.Data.List.Count
import Mathlib.Data.List.Indexes
import Mathlib.Tactic.Common

set_option autoImplicit false

namespace Jts.Shared.Tape

variable {α : Type} [BEq α]

-- What has come out of a device, place by place, is the list `tape`.
def heard (tape : List α) (a : α) (through : Nat) : Nat := (tape.take through).count a

-- The device has taken `accepted` places and has played the first `through` of them.
structure Cut where
  accepted : Nat
  through : Nat
deriving DecidableEq

def reach (cuts : List Cut) : Nat := cuts.foldr (fun cut through => max cut.through through) 0

/-- The device stands behind a gap between two places of `a`, and the second of them is still to come. -/
def Straddles (tape : List α) (a : α) (cut : Cut) : Prop :=
  ∃ first gap last, first < gap ∧ gap < cut.through ∧ cut.through ≤ last ∧ last < cut.accepted ∧
    tape[first]? = some a ∧ tape[gap]? ≠ some a ∧ tape[last]? = some a

theorem heard_mono (tape : List α) (a : α) {earlier later : Nat} (le : earlier ≤ later) :
    heard tape a earlier ≤ heard tape a later :=
  (List.take_sublist_take_left le).count_le a

theorem heard_le_count (tape : List α) (a : α) (through : Nat) : heard tape a through ≤ tape.count a :=
  (List.take_sublist through tape).count_le a

theorem heard_max (tape : List α) (a : α) (left right : Nat) :
    heard tape a (max left right) = max (heard tape a left) (heard tape a right) := by
  rcases Nat.le_total left right with le | le
  · rw [Nat.max_eq_right le, Nat.max_eq_right (heard_mono tape a le)]
  · rw [Nat.max_eq_left le, Nat.max_eq_left (heard_mono tape a le)]

theorem heard_append {tape : List α} {through : Nat} (within : through ≤ tape.length) (a : α) (more : List α) :
    heard (tape ++ more) a through = heard tape a through := by
  rw [heard, heard, List.take_append_of_le_length within]

theorem reach_le {cuts : List Cut} {length : Nat} (within : ∀ cut ∈ cuts, cut.through ≤ length) :
    reach cuts ≤ length := by
  induction cuts with
  | nil => exact Nat.zero_le _
  | cons cut cuts ih =>
    exact Nat.max_le.mpr ⟨within cut (.head _), ih fun later among => within later (.tail _ among)⟩

omit [BEq α] in
theorem straddles_append {tape : List α} {cut : Cut} (within : cut.accepted ≤ tape.length) (a : α) (more : List α) :
    Straddles (tape ++ more) a cut ↔ Straddles tape a cut := by
  have same {place : Nat} (before : place < cut.accepted) : (tape ++ more)[place]? = tape[place]? :=
    List.getElem?_append_left (Nat.lt_of_lt_of_le before within)
  constructor
  · rintro ⟨first, gap, last, late, passed, ahead, taken, isFirst, isGap, isLast⟩
    rw [same (by omega)] at isFirst isGap isLast
    exact ⟨first, gap, last, late, passed, ahead, taken, isFirst, isGap, isLast⟩
  · rintro ⟨first, gap, last, late, passed, ahead, taken, isFirst, isGap, isLast⟩
    rw [← same (by omega)] at isFirst isGap isLast
    exact ⟨first, gap, last, late, passed, ahead, taken, isFirst, isGap, isLast⟩

theorem idxOf?_append (tape more : List α) (a : α) :
    (tape ++ more).idxOf? a = (tape.idxOf? a).or ((more.idxOf? a).map (· + tape.length)) :=
  List.findIdx?_append

variable [LawfulBEq α]

theorem count_take_of_idxOf? {tape : List α} {a : α} {start : Nat} (first : tape.idxOf? a = some start) :
    (tape.take start).count a = 0 := by
  obtain ⟨within, _, before⟩ := List.idxOf?_eq_some_iff.mp first
  refine List.count_eq_zero.mpr fun among => ?_
  obtain ⟨place, bound, here⟩ := List.mem_take_iff_getElem.mp among
  exact before place (by omega) here

/-- What a start and a count tell of a device, unless it stands behind a gap. -/
theorem min_eq_heard {tape : List α} {a : α} {start : Nat} {cut : Cut} (first : tape.idxOf? a = some start)
    (all : cut.accepted = tape.length) (clear : ¬ Straddles tape a cut) :
    min (cut.through - start) (tape.count a) = heard tape a cut.through := by
  have silent := count_take_of_idxOf? first
  obtain ⟨within, isFirst, _⟩ := List.idxOf?_eq_some_iff.mp first
  have split : tape.count a = heard tape a cut.through + (tape.drop cut.through).count a := by
    rw [heard, ← List.count_append, List.take_append_drop]
  rcases Nat.lt_or_ge start cut.through with passed | early
  case inr =>
    have none_ : heard tape a cut.through ≤ (tape.take start).count a := heard_mono tape a early
    omega
  have after : heard tape a cut.through = ((tape.take cut.through).drop start).count a := by
    have parts : heard tape a cut.through =
        ((tape.take cut.through).take start).count a + ((tape.take cut.through).drop start).count a := by
      rw [← List.count_append, List.take_append_drop, heard]
    rw [List.take_take, Nat.min_eq_left (Nat.le_of_lt passed), silent] at parts
    omega
  have bound : heard tape a cut.through ≤ cut.through - start := by
    have short := ((tape.take cut.through).drop start).count_le_length (a := a)
    rw [List.length_drop, List.length_take] at short
    omega
  by_cases solid : ∀ place, start ≤ place → place < cut.through → tape[place]? = some a
  · have full : heard tape a cut.through = cut.through - start := by
      have inside : cut.through ≤ tape.length := by
        have last := solid (cut.through - 1) (by omega) (by omega)
        obtain ⟨bound, _⟩ := List.getElem?_eq_some_iff.mp last
        omega
      have every : ((tape.take cut.through).drop start).count a = ((tape.take cut.through).drop start).length := by
        refine List.count_eq_length.mpr fun b among => ?_
        obtain ⟨place, bound, here⟩ := List.mem_iff_getElem.mp among
        have there := solid (start + place) (by omega) (by grind)
        grind
      rw [after, every, List.length_drop, List.length_take, Nat.min_eq_left inside]
    omega
  · push Not at solid
    obtain ⟨gap, later, before, isGap⟩ := solid
    have ended : (tape.drop cut.through).count a = 0 := by
      refine List.count_eq_zero.mpr fun among => ?_
      obtain ⟨place, bound, here⟩ := List.mem_iff_getElem.mp among
      refine clear ⟨start, gap, cut.through + place, ?_, before, by omega, ?_, ?_, isGap, ?_⟩
      · have apart : gap ≠ start := by
          rintro rfl
          exact isGap (List.getElem?_eq_some_iff.mpr ⟨within, isFirst⟩)
        omega
      · rw [List.length_drop] at bound
        omega
      · exact List.getElem?_eq_some_iff.mpr ⟨within, isFirst⟩
      · grind
    omega

end Jts.Shared.Tape
