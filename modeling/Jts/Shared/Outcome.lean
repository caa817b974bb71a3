import Mathlib.Data.List.Forall2
import Mathlib.Tactic.Common

set_option autoImplicit false

namespace Jts.Shared.Outcome

variable {Error α β : Type}

/-- A computation goes on with a value, or it stops with an error, as stated. -/
def Meets (goesOn : α → Prop) (stops : Error → Prop) : Except Error α → Prop
  | .ok value => goesOn value
  | .error error => stops error

namespace Meets

variable {goesOn : α → Prop} {stops : Error → Prop} {result : Except Error α}

theorem bind {after : β → Prop} {next : α → Except Error β} (meets : Meets goesOn stops result)
    (rest : ∀ value, goesOn value → Meets after stops (next value)) : Meets after stops (result >>= next) := by
  cases result with
  | ok value => exact rest value meets
  | error error => exact meets

theorem mono {weaker : α → Prop} {less : Error → Prop} (meets : Meets goesOn stops result)
    (onward : ∀ value, goesOn value → weaker value) (stopped : ∀ error, stops error → less error) : Meets weaker less result := by
  cases result with
  | ok value => exact onward value meets
  | error error => exact stopped error meets

end Meets

theorem bind_eq_ok {result : Except Error α} {next : α → Except Error β} {value : β} :
    result >>= next = .ok value ↔ ∃ first, result = .ok first ∧ next first = .ok value := by
  cases result with
  | ok first => exact ⟨fun done => ⟨first, rfl, done⟩, fun ⟨_, same, done⟩ => Except.ok.inj same ▸ done⟩
  | error error => exact ⟨nofun, fun ⟨_, same, _⟩ => absurd same nofun⟩

theorem mapM_eq_ok {f : α → Except Error β} {values : List α} {results : List β} :
    values.mapM f = .ok results ↔ List.Forall₂ (fun value result => f value = .ok result) values results := by
  induction values generalizing results with
  | nil => simp [pure, Except.pure, eq_comm]
  | cons value values ih =>
      rw [List.mapM_cons, bind_eq_ok, List.forall₂_cons_left_iff]
      constructor
      · rintro ⟨first, made, rest⟩
        obtain ⟨others, made_others, eq⟩ := bind_eq_ok.mp rest
        exact ⟨first, others, made, ih.mp made_others, (Except.ok.inj eq).symm⟩
      · rintro ⟨first, others, made, made_others, rfl⟩
        exact ⟨first, made, bind_eq_ok.mpr ⟨others, ih.mpr made_others, rfl⟩⟩

theorem exists_of_mem_mapM {f : α → Except Error β} {values : List α} {results : List β} (made : values.mapM f = .ok results)
    {result : β} (mem : result ∈ results) : ∃ value ∈ values, f value = .ok result := by
  replace made := mapM_eq_ok.mp made
  induction made with
  | nil => cases mem
  | @cons value first values rest one others ih =>
      obtain rfl | mem := List.mem_cons.mp mem
      · exact ⟨value, List.mem_cons_self, one⟩
      · obtain ⟨value, there, one⟩ := ih mem
        exact ⟨value, List.mem_cons_of_mem _ there, one⟩

theorem mapM_eq_some {f : α → Option β} {values : List α} {results : List β} :
    values.mapM f = some results ↔ values.map f = results.map some := by
  induction values generalizing results with
  | nil => cases results <;> simp
  | cons value rest ih =>
      rw [List.mapM_cons, List.map_cons]
      cases found : f value with
      | none => cases results <;> simp
      | some first =>
          cases results with
          | nil => cases made : rest.mapM f <;> simp
          | cons result results =>
              rw [List.map_cons, List.cons.injEq, ← ih]
              cases made : rest.mapM f <;> simp

end Jts.Shared.Outcome
