import Mathlib

set_option autoImplicit false

namespace Jts.Shared.Bucket

/-- Splitting an interval never mints more than the whole of it does. -/
def Superadditive (refill : Nat → Nat) : Prop :=
  ∀ first second : Nat, refill first + refill second ≤ refill (first + second)

theorem Superadditive.mono {refill : Nat → Nat} (super : Superadditive refill) {short long : Nat} (le : short ≤ long) :
    refill short ≤ refill long := by
  obtain ⟨rest, rfl⟩ := Nat.exists_eq_add_of_le le
  exact (Nat.le_add_right _ _).trans (super short rest)

-- A rate of whole units over a whole divisor, rounded down.
theorem superadditive_rate (rate divisor : Nat) : Superadditive (fun elapsed => elapsed * rate / divisor) := by
  intro first second
  dsimp only
  rw [Nat.add_mul]
  exact Nat.div_add_div_le_add_div

theorem Superadditive.headroom {refill : Nat → Nat} (super : Superadditive refill) (divisor : Nat) :
    Superadditive (fun elapsed => refill elapsed + refill elapsed / divisor) := by
  intro first second
  have base := super first second
  have parts := Nat.div_add_div_le_add_div (x := refill first) (y := refill second) (z := divisor)
  have whole := Nat.div_le_div_right (c := divisor) base
  dsimp only
  omega

/-- One call on a bucket: it may be filled up, it is refilled for the elapsed time, and it pays. -/
structure Call where
  elapsed : Nat
  filled : Bool
  paid : Nat
  deriving DecidableEq, Repr

def Call.Pays (cap : Nat) (refill : Nat → Nat) (tokens : Nat) (call : Call) (next : Nat) : Prop :=
  next + call.paid ≤ (if call.filled then cap else tokens) + refill call.elapsed

inductive Ledger (cap : Nat) (refill : Nat → Nat) : Nat → List Call → Nat → Prop
  | nil (tokens : Nat) : Ledger cap refill tokens [] tokens
  | cons {tokens next last : Nat} {call : Call} {calls : List Call} (pays : call.Pays cap refill tokens next)
      (rest : Ledger cap refill next calls last) : Ledger cap refill tokens (call :: calls) last

def paid (calls : List Call) : Nat := (calls.map Call.paid).sum

def elapsed (calls : List Call) : Nat := (calls.map Call.elapsed).sum

def fills (calls : List Call) : Nat := calls.countP Call.filled

@[simp] theorem paid_nil : paid [] = 0 := rfl

@[simp] theorem elapsed_nil : elapsed [] = 0 := rfl

@[simp] theorem paid_cons (call : Call) (calls : List Call) : paid (call :: calls) = call.paid + paid calls := by
  simp [paid]

@[simp] theorem elapsed_cons (call : Call) (calls : List Call) :
    elapsed (call :: calls) = call.elapsed + elapsed calls := by
  simp [elapsed]

theorem fills_cons (call : Call) (calls : List Call) :
    fills (call :: calls) = (if call.filled then 1 else 0) + fills calls := by
  rw [fills, List.countP_cons, Nat.add_comm, fills]

-- What is paid over a window was held at its start, minted in it, or filled up in it.
theorem Ledger.window {cap : Nat} {refill : Nat → Nat} (super : Superadditive refill) {tokens last : Nat}
    {calls : List Call} (ledger : Ledger cap refill tokens calls last) :
    last + paid calls ≤ tokens + refill (elapsed calls) + cap * fills calls := by
  induction ledger with
  | nil tokens => simp [fills]
  | @cons tokens next last call calls pays rest ih =>
    have split := super call.elapsed (elapsed calls)
    unfold Call.Pays at pays
    rw [paid_cons, elapsed_cons, fills_cons, Nat.mul_add]
    cases filled : call.filled with
    | false =>
      rw [filled, if_neg Bool.false_ne_true] at pays
      rw [if_neg Bool.false_ne_true]
      omega
    | true =>
      rw [filled, if_pos rfl] at pays
      rw [if_pos rfl]
      omega

/-- One call on a bucket that knows what it is refilled with. -/
structure Charge where
  filled : Bool
  minted : Nat
  paid : Nat
  deriving DecidableEq, Repr

def Charge.balance (cap level : Nat) (charge : Charge) : Nat :=
  if charge.filled then cap else min cap (level + charge.minted)

-- Every charge finds what it takes.
def Covers (cap : Nat) : Nat → List Charge → Prop
  | _, [] => True
  | level, charge :: charges =>
    charge.paid ≤ charge.balance cap level ∧ Covers cap (charge.balance cap level - charge.paid) charges

def charged (charges : List Charge) : Nat := (charges.map Charge.paid).sum

def minted (charges : List Charge) : Nat := (charges.map Charge.minted).sum

@[simp] theorem charged_cons (charge : Charge) (charges : List Charge) :
    charged (charge :: charges) = charge.paid + charged charges := by
  simp [charged]

@[simp] theorem minted_cons (charge : Charge) (charges : List Charge) :
    minted (charge :: charges) = charge.minted + minted charges := by
  simp [minted]

/-- A window that starts with a full bucket and is not filled up again takes no more than the bucket and its refills. -/
def Windowed (cap : Nat) (charges : List Charge) : Prop :=
  ∀ first window, first :: window <:+: charges → (∀ charge ∈ window, charge.filled = false) →
    first.paid + charged window ≤ cap + minted window

-- The windows that start at the level the bucket stands at.
def Affords (level : Nat) (charges : List Charge) : Prop :=
  ∀ window, window <+: charges → (∀ charge ∈ window, charge.filled = false) → charged window ≤ level + minted window

theorem windowed_cons {cap : Nat} {charge : Charge} {charges : List Charge} :
    Windowed cap (charge :: charges) ↔
      Windowed cap charges ∧ ∀ window, window <+: charges → (∀ later ∈ window, later.filled = false) →
        charge.paid + charged window ≤ cap + minted window := by
  constructor
  · intro windowed
    refine ⟨fun first window inside => windowed first window (inside.trans (List.suffix_cons _ _).isInfix), ?_⟩
    exact fun window start => windowed charge window (List.prefix_cons_inj charge |>.mpr start).isInfix
  · rintro ⟨later, start⟩ first window inside
    rcases List.infix_cons_iff.mp inside with ahead | within
    · obtain ⟨rfl, rest⟩ := List.cons_prefix_cons.mp ahead
      exact start window rest
    · exact later first window within

theorem affords_cons {level : Nat} {charge : Charge} {charges : List Charge} :
    Affords level (charge :: charges) ↔ (charge.filled = false → ∀ window, window <+: charges →
      (∀ later ∈ window, later.filled = false) → charge.paid + charged window ≤ level + charge.minted + minted window) := by
  constructor
  · intro affords unfilled window start others
    have whole := affords (charge :: window) ((List.prefix_cons_inj charge).mpr start) (by simpa [unfilled] using others)
    rw [charged_cons, minted_cons] at whole
    omega
  · intro affords window start others
    cases window with
    | nil => exact Nat.zero_le _
    | cons first rest =>
      obtain ⟨rfl, inside⟩ := List.cons_prefix_cons.mp start
      have bound := affords (others first (.head _)) rest inside fun later among => others later (.tail _ among)
      rw [charged_cons, minted_cons]
      omega

theorem Windowed.affords {cap : Nat} {charges : List Charge} (windowed : Windowed cap charges) : Affords cap charges := by
  intro window start others
  cases window with
  | nil => exact Nat.zero_le _
  | cons first rest =>
    have bound := windowed first rest start.isInfix fun later among => others later (.tail _ among)
    rw [charged_cons, minted_cons]
    omega

/-- Whether a bucket covers its charges can be told from the windows alone. -/
theorem covers_iff {cap level : Nat} {charges : List Charge} :
    Covers cap level charges ↔ Affords level charges ∧ Windowed cap charges := by
  induction charges generalizing level with
  | nil =>
    refine iff_of_true trivial ⟨fun window start _ => ?_, fun first window inside _ => ?_⟩
    · rw [List.prefix_nil.mp start]
      exact Nat.zero_le _
    · exact absurd (List.infix_nil.mp inside) (List.cons_ne_nil _ _)
  | cons charge charges ih =>
    have none_ : charged [] = 0 ∧ minted [] = 0 := ⟨rfl, rfl⟩
    rw [Covers, ih, windowed_cons, affords_cons]
    constructor
    · rintro ⟨covered, affords, windowed⟩
      have bound (window : List Charge) (start : window <+: charges) (others : ∀ later ∈ window, later.filled = false) :
          charge.paid + charged window ≤ charge.balance cap level + minted window := by
        have rest := affords window start others
        omega
      refine ⟨fun unfilled window start others => ?_, windowed, fun window start others => ?_⟩
      · have whole := bound window start others
        rw [Charge.balance, unfilled, if_neg Bool.false_ne_true] at whole
        omega
      · have whole := bound window start others
        have full : charge.balance cap level ≤ cap := by
          unfold Charge.balance
          split_ifs <;> omega
        omega
    · rintro ⟨fromLevel, windowed, fromCap⟩
      have bound (window : List Charge) (start : window <+: charges) (others : ∀ later ∈ window, later.filled = false) :
          charge.paid + charged window ≤ charge.balance cap level + minted window := by
        have first := fromCap window start others
        unfold Charge.balance
        cases filled : charge.filled with
        | true => simpa using first
        | false =>
          have second := fromLevel filled window start others
          simp only [Bool.false_eq_true, if_false]
          omega
      have alone := bound [] (List.nil_prefix) (fun _ among => by cases among)
      refine ⟨by omega, fun window start others => ?_, windowed⟩
      have whole := bound window start others
      omega

end Jts.Shared.Bucket
