import Jts.Peering.Machine
import Jts.Peering.Tiers
import Jts.Shared.Transition

set_option autoImplicit false

namespace Jts.Peering

open Jts.Shared.Transition PeeringStateMachine
open Shared.PythonJson.PyFloat (double)
open Shared.Floating (binary64)

/-- A machine and the timers that its caller has armed for it, at most one a name. -/
structure Clocked where
  machine : PeeringStateMachine
  timers : TimerId → Option Time

namespace Clocked

def start : Clocked := ⟨.start, fun _ => none⟩

def execute (timers : TimerId → Option Time) : Action → TimerId → Option Time
  | .scheduleTimer timer atMonotonic => Function.update timers timer (some atMonotonic)
  | .cancelTimer timer => Function.update timers timer none
  | _ => timers

-- A timer that has fired is armed no more.
def popped (timers : TimerId → Option Time) : Event → TimerId → Option Time
  | .timerFired timer _ => Function.update timers timer none
  | _ => timers

def after (timers : TimerId → Option Time) (result : PeeringStateMachine × List Action) : Clocked :=
  ⟨result.1, result.2.foldl execute timers⟩

def handle (params : StateMachineParams) (clocked : Clocked) (event : Event) : Clocked :=
  after (popped clocked.timers event) (clocked.machine.handle params event)

/-- The machine is driven by any events in any order. -/
def clocked (params : StateMachineParams) : System Clocked Event := ofAct (· = start) (handle params)

/-- A window closes over reports that can be ranked, and a heartbeat timeout finds its time passed. -/
def Fires (params : StateMachineParams) (clocked : Clocked) : Event → Prop
  | .timerFired .arbWindow _ => clocked.machine.state = .candidate → ∀ held ∈ clocked.machine.epoch, Ordered held.reports
  | .timerFired .heartTimeout now =>
      clocked.machine.state = .suppressed → params.heartbeatTimeoutSec ≤ now.since clocked.machine.foreignLastHeartbeat
  | _ => True

instance (params : StateMachineParams) (clocked : Clocked) (event : Event) : Decidable (Fires params clocked event) := by
  unfold Fires
  split <;> infer_instance

/-- What a state keeps while it lasts. -/
def Kept (clocked : Clocked) : Prop :=
  match clocked.machine.state with
  | .candidate => ∃ held, clocked.machine.epoch = some held ∧ held.reports ≠ []
  | .winner => ∃ held, clocked.machine.epoch = some held
  | .active => (∃ held, clocked.machine.epoch = some held) ∧ (clocked.timers .heartSend).isSome
  | .idle | .suppressed => True

/-- The window of a bid is still to close. -/
def Rings (clocked : Clocked) : Prop := clocked.machine.state = .candidate → (clocked.timers .arbWindow).isSome

/-- A peer that is suppressed awaits the heartbeat of the other. -/
def Waits (params : StateMachineParams) (clocked : Clocked) : Prop :=
  clocked.machine.state = .suppressed →
    clocked.timers .heartTimeout = some (clocked.machine.foreignLastHeartbeat.plus params.heartbeatTimeoutSec)

variable {params : StateMachineParams} {c : Clocked}

theorem setReport_ne_nil (reports : List WakeReport) (report : WakeReport) : setReport reports report ≠ [] := by
  unfold setReport
  split
  · rename_i known
    intro empty
    rw [List.map_eq_nil_iff.mp empty] at known
    cases known
  · exact List.append_ne_nil_of_right_ne_nil _ (List.cons_ne_nil _ _)

theorem foldl_setDefault_ne_nil {base : List WakeReport} (some_ : base ≠ []) (reports : List WakeReport) :
    reports.foldl setDefault base ≠ [] := by
  induction reports generalizing base with
  | nil => exact some_
  | cons report reports ih =>
    refine ih ?_
    unfold setDefault
    split
    · exact some_
    · exact List.append_ne_nil_of_left_ne_nil some_ _

theorem hear_ne_nil {held : Epoch} (some_ : held.reports ≠ []) (epoch : String) (report : WakeReport) :
    (Epoch.hear held epoch report).reports ≠ [] := by
  unfold Epoch.hear
  split
  · exact setReport_ne_nil _ _
  · split
    · exact foldl_setDefault_ne_nil (List.cons_ne_nil _ _) _
    · exact some_

/-- A timer that fires for nothing: its state is over, the ranking raises, or the heartbeat is still fresh. -/
def Spent (params : StateMachineParams) (clocked : Clocked) : Event → Prop
  | .timerFired .arbWindow _ =>
      clocked.machine.state = .candidate → ∀ held ∈ clocked.machine.epoch, held.reports ≠ [] → ¬ Ordered held.reports
  | .timerFired .heartSend _ => clocked.machine.state = .active → clocked.machine.epoch = none
  | .timerFired .heartTimeout now =>
      clocked.machine.state = .suppressed → ¬ params.heartbeatTimeoutSec ≤ now.since clocked.machine.foreignLastHeartbeat
  | _ => True

/-- All that one event can do to a machine and its timers. -/
inductive Moves (params : StateMachineParams) (c : Clocked) (event : Event) (next : Clocked) : Prop
  | ignored (machine : next.machine = c.machine) (timers : next.timers = popped c.timers event) (spent : Spent params c event)
  | idle (state : next.machine.state = .idle)
  | bids (state : next.machine.state = .candidate) (epoch : ∃ held, next.machine.epoch = some held ∧ held.reports ≠ [])
      (rings : (next.timers .arbWindow).isSome)
  | hears (bid : c.machine.state = .candidate) (state : next.machine.state = .candidate)
      (epoch : ∀ held ∈ c.machine.epoch, held.reports ≠ [] → ∃ heard, next.machine.epoch = some heard ∧ heard.reports ≠ [])
      (timers : next.timers = c.timers)
  | wins (state : next.machine.state = .winner) (epoch : ∃ held, next.machine.epoch = some held)
  | yields (state : next.machine.state = .suppressed)
      (waits : next.timers .heartTimeout = some (next.machine.foreignLastHeartbeat.plus params.heartbeatTimeoutSec))
  | speaks (state : next.machine.state = .active) (epoch : ∃ held, next.machine.epoch = some held)
      (beats : (next.timers .heartSend).isSome)

theorem suppress_moves {event : Event} (machine : PeeringStateMachine) (timers : TimerId → Option Time)
    (epoch peerId : String) (now : Time) : Moves params c event (after timers (suppress params machine epoch peerId now)) :=
  .yields rfl (by simp [after, suppress, execute])

theorem handle_moves (params : StateMachineParams) (c : Clocked) (event : Event) : Moves params c event (c.handle params event) := by
  obtain ⟨⟨state, epoch, foreignEpoch, foreignPeer, last⟩, timers⟩ := c
  cases event with
  | localWake score snrDb rmsDbfs canServe now fresh =>
    simp only [handle, PeeringStateMachine.handle, onLocalWake]
    split
    · split
      · exact .ignored rfl rfl trivial
      · exact .bids rfl ⟨_, rfl, List.cons_ne_nil _ _⟩ (by simp [after, beginCandidate, execute])
    · exact .bids rfl ⟨_, rfl, List.cons_ne_nil _ _⟩ (by simp [after, beginCandidate, execute])
    all_goals exact .ignored rfl rfl trivial
  | peerWake heard report now =>
    simp only [handle, PeeringStateMachine.handle, onPeerWake]
    split
    · exact .bids rfl ⟨_, rfl, List.cons_ne_nil _ _⟩ (by simp [after, execute])
    · exact .hears rfl rfl (fun held same some_ => by cases same; exact ⟨_, rfl, hear_ne_nil some_ heard report⟩) rfl
    · exact .ignored rfl rfl trivial
  | peerClaim claimed peerId now =>
    simp only [handle, PeeringStateMachine.handle, onPeerClaim]
    split
    · exact .ignored rfl rfl trivial
    · split
      · exact .ignored rfl rfl trivial
      · split
        · exact .yields rfl (by simp [after, suppress, execute])
        · exact suppress_moves _ _ _ _ _
      · split
        · exact .yields rfl (by simp [after, suppress, execute])
        · exact .ignored rfl rfl trivial
      all_goals exact suppress_moves _ _ _ _ _
  | peerHeartbeat heard peerId now =>
    simp only [handle, PeeringStateMachine.handle, onPeerHeartbeat]
    split
    next here => exact .yields here.1 (by simp [after, execute])
    next => exact .ignored rfl rfl trivial
  | peerEnd ended peerId reason now =>
    simp only [handle, PeeringStateMachine.handle, onPeerEnd]
    split
    · exact .idle rfl
    · exact .ignored rfl rfl trivial
  | timerFired timer now =>
    cases timer with
    | arbWindow =>
      simp only [handle, PeeringStateMachine.handle, onTimer, closeArbitration]
      split
      · split
        · exact .idle rfl
        next some_ =>
          split
          next raised =>
            refine .ignored rfl rfl fun _ held same _ ordered => ?_
            cases same
            obtain ⟨report, -, wins, -⟩ := (rank_survivor_iff some_).mpr ordered
            cases raised.symm.trans wins
          next =>
            split
            · exact .wins rfl ⟨_, rfl⟩
            · exact .yields rfl (by simp [after, suppress, execute])
      next other => exact .ignored rfl rfl fun bid held same => (other held bid same).elim
    | heartSend =>
      simp only [handle, PeeringStateMachine.handle, onTimer, sendHeartbeatAndReschedule]
      split
      · exact .speaks rfl ⟨_, rfl⟩ (by simp [after, execute])
      next other => exact .ignored rfl rfl fun active => Option.eq_none_iff_forall_ne_some.mpr fun held same => other held active same
    | heartTimeout =>
      simp only [handle, PeeringStateMachine.handle, onTimer, onHeartbeatTimeout]
      split
      · exact .idle rfl
      next early => exact .ignored rfl rfl fun suppressed late => early ⟨suppressed, late⟩
  | voiceSessionStarted started now =>
    simp only [handle, PeeringStateMachine.handle, onVoiceStarted]
    split
    next here =>
      cases epoch with
      | none => cases here.2
      | some held => exact .speaks rfl ⟨held, rfl⟩ (by simp [after, sendHeartbeatAndReschedule, execute])
    next => exact .ignored rfl rfl trivial
  | voiceSessionEnded ended reason now =>
    simp only [handle, PeeringStateMachine.handle, onVoiceEnded]
    split
    · exact .idle rfl
    · exact .ignored rfl rfl trivial

theorem popped_other {timers : TimerId → Option Time} {event : Event} {timer : TimerId}
    (other : ∀ now, event ≠ .timerFired timer now) : popped timers event timer = timers timer := by
  cases event with
  | timerFired fired now => exact Function.update_of_ne (fun same => other now (by rw [same])) _ _
  | _ => rfl

theorem handle_kept (kept : c.Kept) (event : Event) : (c.handle params event).Kept := by
  cases handle_moves params c event with
  | ignored machine timers spent =>
    by_cases active : c.machine.state = .active
    · rw [Kept, active] at kept
      obtain ⟨⟨held, same⟩, beats⟩ := kept
      have other : ∀ now, event ≠ .timerFired .heartSend now := by
        rintro now rfl
        cases (spent active).symm.trans same
      rw [Kept, machine, active, timers, popped_other other]
      exact ⟨⟨held, same⟩, beats⟩
    · rw [Kept] at kept ⊢
      rw [machine]
      cases state : c.machine.state with
      | active => exact (active state).elim
      | idle | suppressed => trivial
      | candidate | winner => rw [state] at kept; exact kept
  | idle state => rw [Kept, state]; trivial
  | bids state epoch _ => rw [Kept, state]; exact epoch
  | hears bid state epoch _ =>
    rw [Kept, bid] at kept
    obtain ⟨held, same, some_⟩ := kept
    rw [Kept, state]
    exact epoch held same some_
  | wins state epoch => rw [Kept, state]; exact epoch
  | yields state _ => rw [Kept, state]; trivial
  | speaks state epoch beats => rw [Kept, state]; exact ⟨epoch, beats⟩

theorem handle_rings (kept : c.Kept) (rings : c.Rings) {event : Event} (fires : Fires params c event) : (c.handle params event).Rings := by
  cases handle_moves params c event with
  | ignored machine timers spent =>
    intro bid
    rw [machine] at bid
    rw [Kept, bid] at kept
    obtain ⟨held, same, some_⟩ := kept
    have other : ∀ now, event ≠ .timerFired .arbWindow now := by
      rintro now rfl
      exact spent bid held same some_ (fires bid held same)
    rw [timers, popped_other other]
    exact rings bid
  | bids _ _ armed => exact fun _ => armed
  | hears bid _ _ timers => exact fun _ => timers ▸ rings bid
  | idle state | wins state | yields state | speaks state => exact fun bid => by cases state.symm.trans bid

theorem handle_waits (waits : Waits params c) {event : Event} (fires : Fires params c event) :
    Waits params (c.handle params event) := by
  cases handle_moves params c event with
  | ignored machine timers spent =>
    intro suppressed
    rw [machine] at suppressed ⊢
    have other : ∀ now, event ≠ .timerFired .heartTimeout now := by
      rintro now rfl
      exact spent suppressed (fires suppressed)
    rw [timers, popped_other other]
    exact waits suppressed
  | yields _ waits => exact fun _ => waits
  | idle state | bids state | hears _ state | wins state | speaks state => exact fun suppressed => by cases state.symm.trans suppressed

end Clocked

def hall : StateMachineParams := ⟨"hall", false, binary64.nearest (3 / 20), double (.finite (17 / 20)), 1, 2⟩

end Jts.Peering
