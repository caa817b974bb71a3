import Jts.UsbClock.Control

set_option autoImplicit false

namespace Jts.UsbClock

open HostClockActuator (Refreshed Applied FencedSince)

namespace Standing

variable {probePpm : ℚ} {now : ℕ} {obs : Obs} {control : ControlStatus} {before after : Standing} {actions : List Action}

/-- Outside of trust and of the step phase of a probe. -/
def Resting (standing : Standing) : Prop :=
  standing.ladder = .disabled ∨ standing.ladder = .l2Fallback ∨ standing.active = false ∨
    standing.ladder = .probing ∧ standing.phase ≠ .step

-- A ladder that rests has just commanded neutral, or it rested before and commanded nothing.
theorem turn_rests (turn : Turn probePpm now obs control before after actions) (rests : after.Resting) :
    control.ready = false ∧ obs.session = true ∨ actions = neutral ∨ actions = [] ∧ before.Resting := by
  cases turn with
  | idles _ off => exact .inr (.inr ⟨rfl, .inr (.inr (.inl off))⟩)
  | ends | begins | retries | fails | restarts | demotes => exact .inr (.inl rfl)
  | loses session unready => exact .inl ⟨unready, session⟩
  | deafens session _ unready => exact .inl ⟨unready, session⟩
  | holds | waits => exact .inr (.inr ⟨rfl, rests⟩)
  | opens _ _ _ probing phase => exact .inr (.inr ⟨rfl, .inr (.inr (.inr ⟨probing, by simp [phase]⟩))⟩)
  | samples => exact .inr (.inr ⟨rfl, rests⟩)
  | steps _ bound _ probing => simp [Resting, stepped, heard, probing, bound.1] at rests
  | passes _ bound => simp [Resting, heard, bound.1] at rests
  | steers _ bound _ _ ladder remains => rcases remains with rfl | rfl <;> simp [Resting, heard, bound.1] at rests

theorem turn_clamped (turn : Turn probePpm now obs control before after actions) :
    ∀ action ∈ actions, ∃ ppm reset, action = .writePitch (clampBias ppm) reset := by
  have reset : ∀ action ∈ neutral, ∃ ppm reset, action = .writePitch (clampBias ppm) reset := fun action among =>
    ⟨0, true, by rw [clampBias_zero]; exact List.mem_singleton.mp among⟩
  cases turn with
  | ends | begins | retries | fails | restarts | demotes => exact reset
  | loses _ _ _ parks =>
    rcases parks with rfl | rfl
    · exact reset
    · nofun
  | idles | deafens | holds | waits | opens | samples => nofun
  | steps | passes => exact fun action among => ⟨_, true, List.mem_singleton.mp among⟩
  | steers _ _ _ _ _ _ _ clamped => exact clamped

end Standing

namespace HostClockThread

variable {thread : HostClockThread} {cfg : HostClockConfig}

def NeutralAtRest (thread : HostClockThread) : Prop := thread.hc.standing.Resting → thread.actuator.LeftNeutral

section Ticks

variable (thread) (obs : Obs) (now : ℕ) (control : ControlStatus)

theorem tick_rests (rests : (thread.hc.tickWithControl obs now control).1.standing.Resting) :
    control.ready = false ∧ obs.session = true ∨ (thread.hc.tickWithControl obs now control).2 = neutral ∨
      (thread.hc.tickWithControl obs now control).2 = [] ∧ thread.hc.standing.Resting := by
  cases enabled : thread.hc.cfg.enabled with
  | true => exact Standing.turn_rests (thread.hc.tickWithControl_turn obs now control enabled) rests
  | false =>
    obtain ⟨same, still⟩ := thread.hc.tickWithControl_disabled obs now control enabled
    exact .inr (.inr ⟨still, same ▸ rests⟩)

theorem tick_clamped :
    ∀ action ∈ (thread.hc.tickWithControl obs now control).2, ∃ ppm reset, action = .writePitch (clampBias ppm) reset := by
  cases enabled : thread.hc.cfg.enabled with
  | true => exact Standing.turn_clamped (thread.hc.tickWithControl_turn obs now control enabled)
  | false =>
    rw [(thread.hc.tickWithControl_disabled obs now control enabled).2]
    nofun

end Ticks

theorem refreshed_refreshed (lawful : thread.actuator.Lawful) (found : Second) :
    Refreshed found.captureGeneration thread.actuator (thread.refreshed found) :=
  HostClockActuator.ensureReady_refreshed lawful found.refresh

theorem written_unready (found : Second) (unready : ((thread.refreshed found).status found.captureGeneration).ready = false) :
    thread.written found = (thread.refreshed found, false) := by
  have skips (actions : List Action) (state : HostClockActuator × Bool) :
      actions.foldl (fun state action =>
        if ((thread.refreshed found).status found.captureGeneration).ready then
          let applied := state.1.apply action found.tickMs (found.applied action)
          (applied.1, state.2 || !applied.2)
        else state) state = state := by
    induction actions generalizing state with
    | nil => rfl
    | cons action actions ih => rw [List.foldl_cons, if_neg (by simp [unready]), ih]
  exact skips _ _

/-- What holds of the refreshed control, and what each action then applied keeps. -/
theorem written_keeps (found : Second) (Keeps : HostClockActuator × Bool → Prop) (start : Keeps (thread.refreshed found, false))
    (applied : ∀ state, Keeps state → ∀ ppm, ∀ result, Applied (ppmToCtlValue (clampBias ppm)) state.1 result →
      Keeps (result.1, state.2 || !result.2)) : Keeps (thread.written found) := by
  have fold : ∀ (actions : List Action), (∀ action ∈ actions, ∃ ppm reset, action = .writePitch (clampBias ppm) reset) →
      ∀ state, Keeps state → Keeps (actions.foldl (fun state action =>
        if ((thread.refreshed found).status found.captureGeneration).ready then
          let applied := state.1.apply action found.tickMs (found.applied action)
          (applied.1, state.2 || !applied.2)
        else state) state) := by
    intro actions clamped state keeps
    induction actions generalizing state with
    | nil => exact keeps
    | cons action actions ih =>
      refine ih (fun other among => clamped other (List.mem_cons_of_mem _ among)) _ ?_
      split
      · obtain ⟨ppm, reset, rfl⟩ := clamped action List.mem_cons_self
        exact applied state keeps ppm _ (HostClockActuator.apply_applied _ _ _)
      · exact keeps
  exact fold _ (thread.tick_clamped _ _ _) _ start

theorem onReconnect_keeps (found : Reconnect) (Keeps : HostClockActuator → Prop) (start : Keeps thread.actuator)
    (applied : ∀ actuator, Keeps actuator → ∀ ppm, ∀ result, Applied (ppmToCtlValue (clampBias ppm)) actuator result → Keeps result.1) :
    Keeps (thread.onReconnect found).actuator := by
  have fold : ∀ (actions : List Action), (∀ action ∈ actions, ∃ ppm reset, action = .writePitch (clampBias ppm) reset) →
      ∀ actuator, Keeps actuator → Keeps (actions.foldl (fun actuator action =>
        (actuator.apply action found.applyMs (found.applied action)).1) actuator) := by
    intro actions clamped actuator keeps
    induction actions generalizing actuator with
    | nil => exact keeps
    | cons action actions ih =>
      obtain ⟨ppm, reset, rfl⟩ := clamped action List.mem_cons_self
      exact ih (fun other among => clamped other (List.mem_cons_of_mem _ among)) _
        (applied actuator keeps ppm _ (HostClockActuator.apply_applied _ _ _))
  rw [onReconnect]
  split
  · exact start
  · exact fold _ (thread.tick_clamped _ _ _) _ start

/-- What a refresh keeps and what each clamped write keeps, a block keeps. -/
theorem step_keeps {Keeps : HostClockActuator → Prop}
    (refreshed : ∀ {captureGeneration : ℕ} {before after : HostClockActuator}, Refreshed captureGeneration before after →
      Keeps before → Keeps after)
    (applied : ∀ actuator, Keeps actuator → ∀ ppm, ∀ result, Applied (ppmToCtlValue (clampBias ppm)) actuator result → Keeps result.1)
    (lawful : thread.actuator.Lawful) (start : Keeps thread.actuator) (block : Block) : Keeps (thread.step block).actuator := by
  cases block with
  | reconnect found => exact onReconnect_keeps found Keeps start applied
  | second found =>
    exact written_keeps found (fun state => Keeps state.1) (refreshed (refreshed_refreshed lawful found) start)
      fun state keeps ppm result => applied state.1 keeps ppm result

theorem lawful_step (lawful : thread.actuator.Lawful) (block : Block) : (thread.step block).actuator.Lawful :=
  step_keeps (fun refreshed was => refreshed.lawful was)
    (fun _ was ppm _ applied => applied.lawful was (ppmToCtlValue_within ppm)) lawful lawful block

theorem fencedSince_step {base : List PitchWrite} (lawful : thread.actuator.Lawful) (fenced : thread.actuator.FencedSince base)
    (block : Block) : (thread.step block).actuator.FencedSince base :=
  step_keeps (fun refreshed was => refreshed.fencedSince was) (fun _ was _ _ applied => applied.fencedSince was) lawful fenced block

theorem written_failed (found : Second) (failed : (thread.written found).2 = true) : (thread.written found).1.ctl = none :=
  written_keeps found (fun state => state.2 = true → state.1.ctl = none) nofun
    (fun state keeps ppm result applied failed => by
      cases applied with
      | absent gone => exact gone
      | lands held => exact absurd ((keeps (by simpa using failed)) ▸ held) nofun
      | fails _ gone => exact gone) failed

theorem applied_neutral {actuator : HostClockActuator} {nowMs : ℕ} {answer : WriteAnswer} (reset : Bool) :
    (actuator.apply (.writePitch 0 reset) nowMs answer).1.LeftNeutral :=
  Applied.leftNeutral (ppmToCtlValue_zero ▸ actuator.apply_applied 0 reset answer)

theorem neutralAtRest_second (lawful : thread.actuator.Lawful) (rests : thread.NeutralAtRest) (found : Second) :
    (thread.onSecond found).NeutralAtRest := by
  have refreshed := refreshed_refreshed lawful found
  rw [onSecond]
  cases failed : (thread.written found).2 with
  | true =>
    intro _ ctl among
    rw [written_failed found failed] at among
    exact nomatch among
  | false =>
    intro resting
    change (thread.written found).1.LeftNeutral
    cases ready : ((thread.refreshed found).status found.captureGeneration).ready with
    | false =>
      rw [written_unready found ready]
      intro ctl among
      rw [refreshed.ready] at ready
      exact absurd (Option.isSome_of_mem among) (by simp [ready])
    | true =>
      rcases thread.tick_rests found.obs found.tickMs _ resting with ⟨unready, -⟩ | commanded | ⟨silent, rested⟩
      · exact absurd (ready.symm.trans unready) nofun
      · have commanded : (thread.ladderTick found).2 = neutral := commanded
        simp only [written, commanded, neutral, List.foldl_cons, List.foldl_nil, ready, if_true]
        exact applied_neutral true
      · have silent : (thread.ladderTick found).2 = [] := silent
        simp only [written, silent, List.foldl_nil]
        exact refreshed.leftNeutral (rests rested)

theorem neutralAtRest_reconnect (rests : thread.NeutralAtRest) (found : Reconnect) : (thread.onReconnect found).NeutralAtRest := by
  rw [onReconnect]
  split
  · exact rests
  intro resting
  rcases thread.tick_rests { found.obs with playing := false, steady := false } found.tickMs _ resting with
    ⟨-, session⟩ | commanded | ⟨silent, rested⟩
  · simp [Obs.session] at session
  · simp only [commanded, neutral, List.foldl_cons, List.foldl_nil]
    exact applied_neutral true
  · simp only [silent, List.foldl_nil]
    exact rests rested

theorem neutralAtRest_step (lawful : thread.actuator.Lawful) (rests : thread.NeutralAtRest) (block : Block) :
    (thread.step block).NeutralAtRest := by
  cases block with
  | reconnect found => exact neutralAtRest_reconnect rests found
  | second found => exact neutralAtRest_second lawful rests found

theorem new_lawful : HostClockActuator.new.Lawful := ⟨rfl, nofun, nofun⟩

theorem start_lawful (cfg : HostClockConfig) (found : Startup) :
    (start cfg found).actuator.Lawful ∧ (start cfg found).actuator.LeftNeutral := by
  let ready := (HostClockActuator.new.ensureReady found.captureGeneration found.readyMs found.refresh).1
  have refreshed : Refreshed found.captureGeneration .new ready :=
    HostClockActuator.ensureReady_refreshed new_lawful found.refresh
  have shape : (start cfg found).actuator =
      if (ready.status found.captureGeneration).ready then (ready.apply (.writePitch 0 true) found.applyMs found.applied).1
      else ready := rfl
  rw [shape]
  split
  next =>
    have applied := @HostClockActuator.apply_applied ready found.applyMs 0 true found.applied
    exact ⟨applied.lawful (refreshed.lawful new_lawful) (by simp), applied_neutral true⟩
  next => exact ⟨refreshed.lawful new_lawful, refreshed.leftNeutral nofun⟩

theorem run_lawful (cfg : HostClockConfig) (found : Startup) (blocks : List Block) :
    (run cfg found blocks).actuator.Lawful ∧ (run cfg found blocks).NeutralAtRest := by
  have steps (thread : HostClockThread) (lawful : thread.actuator.Lawful) (rests : thread.NeutralAtRest) :
      (blocks.foldl step thread).actuator.Lawful ∧ (blocks.foldl step thread).NeutralAtRest := by
    induction blocks generalizing thread with
    | nil => exact ⟨lawful, rests⟩
    | cons block blocks ih => exact ih _ (lawful_step lawful block) (neutralAtRest_step lawful rests block)
  obtain ⟨lawful, neutral⟩ := start_lawful cfg found
  exact steps _ lawful fun _ => neutral

theorem run_fencedSince {base : List PitchWrite} (lawful : thread.actuator.Lawful) (fenced : thread.actuator.FencedSince base)
    (blocks : List Block) : (blocks.foldl step thread).actuator.FencedSince base := by
  induction blocks generalizing thread with
  | nil => exact fenced
  | cons block blocks ih => exact ih (lawful_step lawful block) (fencedSince_step lawful fenced block)

theorem exit_neutral (found : Shutdown) : (thread.exit found).actuator.LeftNeutral := applied_neutral true

end HostClockThread

end Jts.UsbClock
