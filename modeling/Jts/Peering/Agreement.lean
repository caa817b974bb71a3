import Jts.Peering.Records
import Jts.Peering.Tiers
import Jts.Shared.Transition
import Mathlib.Data.Finset.Max
import Mathlib.Data.List.Nodup

set_option autoImplicit false

namespace Jts.Peering

open Jts.Shared.Transition
open Shared.PythonJson.PyFloat (double)
open Shared.Floating (binary64)

namespace Node

variable {params : StateMachineParams} {wakes : List Wake} {node : Node} {event : Event}

/-- A peer that is still gathering, and its records. -/
structure Gathers (node : Node) (heard : List Wake) : Prop where
  candidate : node.machine.state = .candidate
  records : ∃ last older, heard = last :: older ∧ node.machine.epoch = some (epochOf last older)
  undecided : ¬ node.Starts

theorem broadcasts_take (params : StateMachineParams) (node : Node) (event : Event) :
    (node.take params event).broadcasts =
      node.broadcasts ++ (node.machine.handle params event).2.filterMap Action.wake :=
  List.filterMap_append

-- What has been emitted stays so.
theorem emitted_run (params : StateMachineParams) (node : Node) (events : List Event) :
    node.emitted <+: (node.run params events).emitted := by
  induction events generalizing node with
  | nil => exact List.prefix_rfl
  | cons event events ih => exact (List.prefix_append _ _).trans (ih (node.take params event))

theorem broadcasts_run (params : StateMachineParams) (node : Node) (events : List Event) :
    node.broadcasts <+: (node.run params events).broadcasts :=
  (emitted_run params node events).filterMap _

theorem run_cons (params : StateMachineParams) (node : Node) (event : Event) (events : List Event) :
    node.run params (event :: events) = (node.take params event).run params events := rfl

theorem run_append (params : StateMachineParams) (node : Node) (before after : List Event) :
    node.run params (before ++ after) = (node.run params before).run params after :=
  List.foldl_append

/-- The events of a round, with the WAKEs that may arrive in it. -/
def InRound (wakes : List Wake) (event : Event) : Prop :=
  event.wakesLocally = true ∨ event.closesWindow = true ∨ ∃ wake ∈ wakes, event.wake = some wake

theorem exists_of_closesWindow (closes : event.closesWindow = true) : ∃ now, event = .timerFired .arbWindow now := by
  cases event with
  | timerFired timer now =>
    cases timer with
    | arbWindow => exact ⟨now, rfl⟩
    | _ => cases closes
  | _ => cases closes

-- A peer that has been reached broadcasts nothing until its window closes.
theorem take_candidate (params : StateMachineParams) (candidate : node.machine.state = .candidate) (inRound : InRound wakes event)
    (still : event.closesWindow = false) :
    (node.take params event).machine.state = .candidate ∧ (node.take params event).broadcasts = node.broadcasts := by
  rw [broadcasts_take]
  cases event with
  | localWake score snrDb rmsDbfs canServe now fresh =>
    simp [take, PeeringStateMachine.handle, PeeringStateMachine.onLocalWake, candidate, Action.wake]
  | peerWake epoch report now =>
    cases epoch' : node.machine.epoch <;>
      simp [take, PeeringStateMachine.handle, PeeringStateMachine.onPeerWake, candidate, epoch']
  | timerFired timer now => cases timer <;> simp_all [InRound, Event.wakesLocally, Event.closesWindow, Event.wake]
  | _ => simp [InRound, Event.wakesLocally, Event.closesWindow, Event.wake] at inRound

theorem run_candidate (params : StateMachineParams) {events : List Event} (candidate : node.machine.state = .candidate)
    (inRound : ∀ event ∈ events, InRound wakes event ∧ event.closesWindow = false) :
    (node.run params events).broadcasts = node.broadcasts := by
  induction events generalizing node with
  | nil => rfl
  | cons event events ih =>
    obtain ⟨here, later⟩ := List.forall_mem_cons.mp inRound
    obtain ⟨candidate, quiet⟩ := take_candidate params candidate here.1 here.2
    exact (ih candidate later).trans quiet

-- Until it has decided, a peer stands down at its own wakes alone.
theorem standsDown_take (params : StateMachineParams) (candidate : node.machine.state = .candidate) (inRound : InRound wakes event)
    (still : (node.take params event).machine.state = .candidate) :
    (node.take params event).StandsDown ↔ node.StandsDown ∨ event.wakesLocally = true := by
  have said : .standDown ∈ (node.machine.handle params event).2 ↔ event.wakesLocally = true := by
    cases event with
    | localWake score snrDb rmsDbfs canServe now fresh =>
      simp [PeeringStateMachine.handle, PeeringStateMachine.onLocalWake, candidate, Event.wakesLocally]
    | peerWake epoch report now =>
      cases epoch' : node.machine.epoch <;>
        simp [PeeringStateMachine.handle, PeeringStateMachine.onPeerWake, candidate, epoch', Event.wakesLocally]
    | timerFired timer now =>
      cases timer with
      | arbWindow =>
        simp only [take, PeeringStateMachine.handle, PeeringStateMachine.onTimer, PeeringStateMachine.closeArbitration] at still ⊢
        repeat' split at still
        all_goals simp_all [PeeringStateMachine.suppress, Event.wakesLocally]
      | _ => simp [InRound, Event.wakesLocally, Event.closesWindow, Event.wake] at inRound
    | _ => simp [InRound, Event.wakesLocally, Event.closesWindow, Event.wake] at inRound
  rw [StandsDown, take, List.mem_append, said]
  rfl

-- Its own wake does not count once a peer has a record.
theorem take_gathers (params : StateMachineParams) {heard : List Wake} (apart : Apart wakes) (gathers : node.Gathers heard) (sorted : Sorted wakes heard)
    (inRound : InRound wakes event) (still : event.closesWindow = false) :
    (node.take params event).Gathers (record params heard event) ∧ Sorted wakes (record params heard event) := by
  have candidate := (take_candidate params gathers.candidate inRound still).1
  obtain ⟨before, ⟨last, older, rfl, epoch⟩, undecided⟩ := gathers
  cases event with
  | localWake score snrDb rmsDbfs canServe now fresh =>
    have handled : node.machine.handle params (.localWake score snrDb rmsDbfs canServe now fresh) = (node.machine, [.standDown]) := by
      simp [PeeringStateMachine.handle, PeeringStateMachine.onLocalWake, before]
    refine ⟨⟨candidate, ⟨last, older, rfl, ?_⟩, ?_⟩, sorted⟩
    · rw [take, handled]; exact epoch
    · simpa [take, handled, Starts] using undecided
  | peerWake epoch' report now =>
    obtain ⟨wake, mem, same⟩ : ∃ wake ∈ wakes, (⟨epoch', report⟩ : Wake) = wake := by
      simpa [InRound, Event.wakesLocally, Event.closesWindow, Event.wake] using inRound
    subst same
    obtain ⟨last', older', heard, kept⟩ := hear_epochOf apart sorted mem
    have handled : node.machine.handle params (.peerWake epoch' report now) =
        ({ node.machine with epoch := some (epochOf last' older') }, []) := by
      simp [PeeringStateMachine.handle, PeeringStateMachine.onPeerWake, before, epoch, ← kept]
    refine ⟨⟨candidate, ⟨last', older', heard, ?_⟩, ?_⟩, sorted.hear mem⟩
    · rw [take, handled]
    · simpa [take, handled, Starts] using undecided
  | timerFired timer now => cases timer <;> simp_all [InRound, Event.wakesLocally, Event.closesWindow, Event.wake]
  | _ => simp [InRound, Event.wakesLocally, Event.closesWindow, Event.wake] at inRound

theorem run_gathers (params : StateMachineParams) {heard : List Wake} {events : List Event} (apart : Apart wakes) (gathers : node.Gathers heard)
    (sorted : Sorted wakes heard) (inRound : ∀ event ∈ events, InRound wakes event ∧ event.closesWindow = false) :
    (node.run params events).Gathers (events.foldl (record params) heard) ∧
      Sorted wakes (events.foldl (record params) heard) ∧
      ((node.run params events).StandsDown ↔ node.StandsDown ∨ ∃ event ∈ events, event.wakesLocally = true) := by
  induction events generalizing node heard with
  | nil => exact ⟨gathers, sorted, by simp [run]⟩
  | cons event events ih =>
    obtain ⟨here, later⟩ := List.forall_mem_cons.mp inRound
    obtain ⟨next, sorted⟩ := take_gathers params apart gathers sorted here.1 here.2
    obtain ⟨last, sorted, stands⟩ := ih next sorted later
    refine ⟨last, sorted, ?_⟩
    rw [run_cons, stands, standsDown_take params gathers.candidate here.1 next.candidate, List.exists_mem_cons_iff, or_assoc]

/-- The WAKE of a peer whose own detector fires before any other WAKE reaches it. -/
def bid (params : StateMachineParams) : List Event → List Wake
  | first :: _ => if first.wakesLocally then record params [] first else []
  | [] => []

theorem bid_peerId {events : List Event} {wake : Wake} (mem : wake ∈ bid params events) :
    wake.report.peerId = params.peerId := by
  cases events with
  | nil => cases mem
  | cons first events =>
    cases first with
    | localWake score snrDb rmsDbfs canServe now fresh => rw [List.mem_singleton.mp mem]
    | _ => cases mem

theorem bid_unique {events : List Event} {one other : Wake} (here : one ∈ bid params events)
    (there : other ∈ bid params events) : one = other := by
  cases events with
  | nil => cases here
  | cons first events =>
    cases first with
    | localWake score snrDb rmsDbfs canServe now fresh =>
      exact (List.mem_singleton.mp here).trans (List.mem_singleton.mp there).symm
    | _ => cases here

theorem records_of_bid {events : List Event} {own : Wake} (mem : own ∈ bid params events)
    (larger : ∀ event ∈ events, ∀ wake, event.wake = some wake → own.epoch ≤ wake.epoch) : records params events = [own] := by
  cases events with
  | nil => cases mem
  | cons first rest =>
    cases first with
    | localWake score snrDb rmsDbfs canServe now fresh =>
      obtain rfl := List.mem_singleton.mp mem
      exact foldl_record_eq (List.forall_mem_cons.mp larger).2
    | _ => cases mem

theorem take_start (params : StateMachineParams) (inRound : InRound wakes event) (still : event.closesWindow = false) :
    (start.take params event).Gathers (record params [] event) ∧
      (start.take params event).broadcasts = bid params [event] ∧ ¬ (start.take params event).StandsDown := by
  cases event with
  | localWake score snrDb rmsDbfs canServe now fresh =>
    refine ⟨⟨rfl, ⟨_, [], rfl, rfl⟩, fun ⟨epoch, mem⟩ => ?_⟩, rfl, fun mem => ?_⟩
    all_goals simp [take, start, PeeringStateMachine.start, PeeringStateMachine.handle, PeeringStateMachine.onLocalWake,
      PeeringStateMachine.beginCandidate, StandsDown] at mem
  | peerWake epoch report now =>
    refine ⟨⟨rfl, ⟨_, [], rfl, rfl⟩, fun ⟨epoch, mem⟩ => ?_⟩, rfl, fun mem => ?_⟩
    all_goals simp [take, start, PeeringStateMachine.start, PeeringStateMachine.handle, PeeringStateMachine.onPeerWake, StandsDown] at mem
  | timerFired timer now => cases timer <;> simp_all [InRound, Event.wakesLocally, Event.closesWindow, Event.wake]
  | _ => simp [InRound, Event.wakesLocally, Event.closesWindow, Event.wake] at inRound

/-- Before a window closes a peer broadcasts its bid and no more. -/
theorem start_broadcasts {events : List Event} (inRound : ∀ event ∈ events, InRound wakes event ∧ event.closesWindow = false) :
    (start.run params events).broadcasts = bid params events := by
  cases events with
  | nil => rfl
  | cons event events =>
    obtain ⟨here, later⟩ := List.forall_mem_cons.mp inRound
    obtain ⟨gathers, first, -⟩ := take_start params here.1 here.2
    exact (run_candidate params gathers.candidate later).trans first

-- Its records begin with its own bid or with the first WAKE that reaches it.
theorem start_sorted {params : StateMachineParams} (inRound : InRound wakes event) (own : bid params [event] ⊆ wakes)
    (still : event.closesWindow = false) : Sorted wakes (record params [] event) := by
  cases event with
  | localWake score snrDb rmsDbfs canServe now fresh => exact .singleton (own List.mem_cons_self)
  | peerWake epoch report now =>
    refine .singleton ?_
    simpa [InRound, Event.wakesLocally, Event.closesWindow, Event.wake] using inRound
  | timerFired timer now => cases timer <;> simp_all [InRound, Event.wakesLocally, Event.closesWindow, Event.wake]
  | _ => simp [InRound, Event.wakesLocally, Event.closesWindow, Event.wake] at inRound

/-- A peer that has been reached, by its own detector or by a WAKE, gathers what it records. -/
theorem start_run {events : List Event} (apart : Apart wakes) (reached : events ≠ [])
    (inRound : ∀ event ∈ events, InRound wakes event ∧ event.closesWindow = false) (own : bid params events ⊆ wakes) :
    (start.run params events).Gathers (records params events) ∧ Sorted wakes (records params events) ∧
      ((start.run params events).StandsDown ↔ ∃ event ∈ events.tail, event.wakesLocally = true) := by
  cases events with
  | nil => exact absurd rfl reached
  | cons event events =>
    obtain ⟨here, later⟩ := List.forall_mem_cons.mp inRound
    obtain ⟨first, -, quiet⟩ := take_start params here.1 here.2
    obtain ⟨gathers, sorted, stands⟩ := run_gathers params apart first (start_sorted here.1 own here.2) later
    exact ⟨gathers, sorted, stands.trans (or_iff_right quiet)⟩

-- A machine in a round that it has decided.
def Over (node : Node) : Prop := node.machine.state = .winner ∨ node.machine.state = .suppressed

/-- A peer that has closed its window. -/
structure Decided (params : StateMachineParams) (node : Node) (heard : List Wake) : Prop where
  isOver : node.Over
  chosen : rank (heard.map Wake.report) = .ok params.peerId → node.Starts
  passed : rank (heard.map Wake.report) ≠ .ok params.peerId → ¬ node.Starts ∧ node.StandsDown

theorem take_window {heard : List Wake} {winner : String} {now : Time} (gathers : node.Gathers heard)
    (wins : rank (heard.map Wake.report) = .ok winner) : (node.take params (.timerFired .arbWindow now)).Decided params heard := by
  obtain ⟨candidate, ⟨last, older, rfl, epoch⟩, undecided⟩ := gathers
  have some : (last :: older).map Wake.report ≠ [] := List.cons_ne_nil _ _
  rw [Starts] at undecided
  by_cases first : winner = params.peerId
  · have handled : node.machine.handle params (.timerFired .arbWindow now) =
        ({ node.machine with state := .winner }, [.broadcastClaim last.epoch, .startSession last.epoch]) := by
      simp only [PeeringStateMachine.handle, PeeringStateMachine.onTimer, PeeringStateMachine.closeArbitration, candidate,
        epoch, epochOf, if_neg some, wins, if_pos first]
    refine ⟨.inl ?_, fun _ => ⟨last.epoch, ?_⟩, fun other => absurd (wins.trans (congrArg Except.ok first)) other⟩
    · rw [take, handled]
    · rw [take, handled]
      simp
  · have handled : node.machine.handle params (.timerFired .arbWindow now) =
        ({ node.machine with
            state := .suppressed, epoch := none, foreignEpoch := .some last.epoch, foreignPeer := .some winner,
            foreignLastHeartbeat := now },
          [.standDown, .scheduleTimer .heartTimeout (now.plus params.heartbeatTimeoutSec)]) := by
      simp only [PeeringStateMachine.handle, PeeringStateMachine.onTimer, PeeringStateMachine.closeArbitration, candidate,
        epoch, epochOf, if_neg some, wins, if_neg first]
      rfl
    refine ⟨.inr ?_, fun same => ?_, fun _ => ⟨?_, ?_⟩⟩
    · rw [take, handled]
    · exact absurd (Except.ok.inj (wins.symm.trans same)) first
    · rw [take, handled, Starts]
      simpa using undecided
    · rw [take, handled, StandsDown]
      simp

-- A window whose ranking raises leaves the peer as it was.
theorem take_raises {heard : List Wake} {now : Time} (gathers : node.Gathers heard) (raises : rank (heard.map Wake.report) = .error .value) :
    (node.take params (.timerFired .arbWindow now)).Gathers heard := by
  obtain ⟨candidate, ⟨last, older, rfl, epoch⟩, undecided⟩ := gathers
  have some : (last :: older).map Wake.report ≠ [] := List.cons_ne_nil _ _
  have handled : node.machine.handle params (.timerFired .arbWindow now) = (node.machine, []) := by
    simp only [PeeringStateMachine.handle, PeeringStateMachine.onTimer, PeeringStateMachine.closeArbitration, candidate, epoch,
      epochOf, if_neg some, raises]
  have same : node.take params (.timerFired .arbWindow now) = node := by
    rw [take, handled, List.append_nil]
  rw [same]
  exact ⟨candidate, ⟨last, older, rfl, epoch⟩, undecided⟩

-- Once it has decided, a peer that bids no more only stands down.
theorem take_over (over_ : node.Over) (inRound : InRound wakes event)
    (quiet : (node.take params event).broadcasts = node.broadcasts) :
    (node.take params event).Over ∧
      ∀ action ∈ (node.machine.handle params event).2, action = .standDown := by
  rw [broadcasts_take, List.append_right_eq_self] at quiet
  cases event with
  | localWake score snrDb rmsDbfs canServe now fresh =>
    rcases over_ with winner | suppressed
    · simp [Over, take, PeeringStateMachine.handle, PeeringStateMachine.onLocalWake, winner]
    · by_cases weak : score.val.lt params.breakThreshold.val = true
      · simp [Over, take, PeeringStateMachine.handle, PeeringStateMachine.onLocalWake, suppressed, weak]
      · simp [PeeringStateMachine.handle, PeeringStateMachine.onLocalWake, suppressed, weak,
          PeeringStateMachine.beginCandidate, Action.wake] at quiet
  | peerWake epoch report now =>
    rcases over_ with winner | suppressed
    · simp [Over, take, PeeringStateMachine.handle, PeeringStateMachine.onPeerWake, winner]
    · simp [Over, take, PeeringStateMachine.handle, PeeringStateMachine.onPeerWake, suppressed]
  | timerFired timer now =>
    cases timer with
    | arbWindow =>
      rcases over_ with winner | suppressed
      · simp [Over, take, PeeringStateMachine.handle, PeeringStateMachine.onTimer, PeeringStateMachine.closeArbitration,
          winner]
      · simp [Over, take, PeeringStateMachine.handle, PeeringStateMachine.onTimer, PeeringStateMachine.closeArbitration,
          suppressed]
    | _ => simp [InRound, Event.wakesLocally, Event.closesWindow, Event.wake] at inRound
  | _ => simp [InRound, Event.wakesLocally, Event.closesWindow, Event.wake] at inRound

theorem take_decided {heard : List Wake} (decided : node.Decided params heard) (inRound : InRound wakes event)
    (quiet : (node.take params event).broadcasts = node.broadcasts) : (node.take params event).Decided params heard := by
  obtain ⟨over_, only⟩ := take_over decided.isOver inRound quiet
  refine ⟨over_, fun first => ?_, fun behind => ⟨fun ⟨epoch, mem⟩ => ?_, ?_⟩⟩
  · obtain ⟨epoch, mem⟩ := decided.chosen first
    exact ⟨epoch, List.mem_append_left _ mem⟩
  · rcases List.mem_append.mp mem with before | now
    · exact (decided.passed behind).1 ⟨epoch, before⟩
    · cases only _ now
  · exact List.mem_append_left _ (decided.passed behind).2

-- Of a run that bids no more, no step does.
theorem quiet_cons {events : List Event} (quiet : (node.run params (event :: events)).broadcasts = node.broadcasts) :
    (node.take params event).broadcasts = node.broadcasts := by
  have after := broadcasts_run params (node.take params event) events
  rw [← run_cons, quiet] at after
  exact after.eq_of_length_le (by rw [broadcasts_take, List.length_append]; exact Nat.le_add_right _ _)

theorem run_decided {heard : List Wake} {events : List Event} (decided : node.Decided params heard)
    (inRound : ∀ event ∈ events, InRound wakes event) (quiet : (node.run params events).broadcasts = node.broadcasts) :
    (node.run params events).Decided params heard := by
  induction events generalizing node with
  | nil => exact decided
  | cons event events ih =>
    obtain ⟨here, later⟩ := List.forall_mem_cons.mp inRound
    have first := quiet_cons quiet
    exact ih (take_decided decided here first) later (quiet.trans first.symm)

/-- A peer that bids and records nothing more decides by what it has recorded, once its window closes. -/
theorem run_closing {heard : List Wake} {winner : String} {events : List Event} (apart : Apart wakes) (sorted : Sorted wakes heard)
    (wins : rank (heard.map Wake.report) = .ok winner) (gathers : node.Gathers heard)
    (inRound : ∀ event ∈ events, InRound wakes event ∧ record params heard event = heard)
    (quiet : (node.run params events).broadcasts = node.broadcasts) (closes : ∃ event ∈ events, event.closesWindow = true) :
    (node.run params events).Decided params heard := by
  induction events generalizing node with
  | nil => simp at closes
  | cons event events ih =>
    obtain ⟨here, later⟩ := List.forall_mem_cons.mp inRound
    have first := quiet_cons quiet
    rw [run_cons] at quiet ⊢
    cases window : event.closesWindow with
    | true =>
      obtain ⟨now, rfl⟩ := exists_of_closesWindow window
      exact run_decided (take_window gathers wins) (fun event mem => (later event mem).1) (quiet.trans first.symm)
    | false =>
      have next := (take_gathers params apart gathers sorted here.1 window).1
      refine ih (here.2 ▸ next) later (quiet.trans first.symm) ?_
      simpa [window] using closes

/-- One whose ranking raises decides nothing. -/
theorem run_raising {heard : List Wake} {events : List Event} (apart : Apart wakes) (sorted : Sorted wakes heard)
    (raises : rank (heard.map Wake.report) = .error .value) (gathers : node.Gathers heard)
    (inRound : ∀ event ∈ events, InRound wakes event ∧ record params heard event = heard) :
    (node.run params events).Gathers heard ∧
      ((node.run params events).StandsDown ↔ node.StandsDown ∨ ∃ event ∈ events, event.wakesLocally = true) := by
  induction events generalizing node with
  | nil => exact ⟨gathers, by simp [run]⟩
  | cons event events ih =>
    obtain ⟨here, later⟩ := List.forall_mem_cons.mp inRound
    have next : (node.take params event).Gathers heard := by
      cases window : event.closesWindow with
      | true =>
        obtain ⟨now, rfl⟩ := exists_of_closesWindow window
        exact take_raises gathers raises
      | false => exact here.2 ▸ (take_gathers params apart gathers sorted here.1 window).1
    obtain ⟨last, stands⟩ := ih next later
    refine ⟨last, ?_⟩
    rw [run_cons, stands, standsDown_take params gathers.candidate here.1 next.candidate, List.exists_mem_cons_iff, or_assoc]

end Node

/-- Something that happens to a peer. -/
abbrev Happening := String × Event

section Household

variable (params : String → StateMachineParams) (peers : List String)

def eventsOf (history : List Happening) (peer : String) : List Event :=
  history.filterMap fun happening => if happening.1 = peer then some happening.2 else none

/-- A peer after all that has happened, of which only its own events reach it. -/
def nodeOf (history : List Happening) (peer : String) : Node := Node.start.run (params peer) (eventsOf history peer)

def sent (history : List Happening) : List Wake := peers.flatMap fun peer => (nodeOf params history peer).broadcasts

/-- A WAKE reaches a peer only once another has broadcast it. -/
def Allowed (before : List Happening) (happening : Happening) : Prop :=
  happening.1 ∈ peers ∧
    (happening.2.wakesLocally = true ∨ happening.2.closesWindow = true ∨
      ∃ wake ∈ sent params peers before, happening.2.wake = some wake ∧ wake.report.peerId ≠ happening.1)

instance (before : List Happening) (happening : Happening) : Decidable (Allowed params peers before happening) :=
  inferInstanceAs (Decidable (_ ∧ _))

/-- One utterance. Every WAKE is broadcast and reaches the others before a window closes, and then every window closes. -/
structure Round (gathering closing : List Happening) : Prop where
  named : ∀ peer ∈ peers, (params peer).peerId = peer
  allowed : Along (Allowed params peers) (fun before happening => before ++ [happening]) [] (gathering ++ closing)
  opened : ∀ happening ∈ gathering, happening.2.closesWindow = false
  woken : ∃ happening ∈ gathering, happening.2.wakesLocally = true
  epochs : ((sent params peers gathering).map Wake.epoch).Nodup
  reaches : ∀ wake ∈ sent params peers gathering, ∀ peer ∈ peers, peer ≠ wake.report.peerId →
    ∃ happening ∈ gathering, happening.1 = peer ∧ happening.2.wake = some wake
  quiet : ∀ peer ∈ peers, (nodeOf params (gathering ++ closing) peer).broadcasts = (nodeOf params gathering peer).broadcasts
  closed : ∀ peer ∈ peers, ∃ happening ∈ closing, happening.1 = peer ∧ happening.2.closesWindow = true

/-- One peer starts a session, and every other that has woken stands down. -/
def Agreed (history : List Happening) : Prop :=
  ∃ winner ∈ peers, (nodeOf params history winner).Starts ∧
    ∀ other ∈ peers, other ≠ winner → ¬ (nodeOf params history other).Starts ∧
      ((∃ happening ∈ history, happening.1 = other ∧ happening.2.wakesLocally = true) →
        (nodeOf params history other).StandsDown)

/-- Its ranking raises, and its detector has fired as the first that happens to it, and no more. -/
def Stranded (gathering closing : List Happening) (peer : String) : Prop :=
  rank ((records (params peer) (eventsOf gathering peer)).map Wake.report) = .error .value ∧
    (∃ happening ∈ gathering ++ closing, happening.1 = peer ∧ happening.2.wakesLocally = true) ∧
    ¬ ∃ event ∈ (eventsOf (gathering ++ closing) peer).tail, event.wakesLocally = true

instance (gathering closing : List Happening) (peer : String) : Decidable (Stranded params gathering closing peer) :=
  inferInstanceAs (Decidable (_ ∧ _ ∧ _))

end Household

theorem eventsOf_append (before after : List Happening) (peer : String) :
    eventsOf (before ++ after) peer = eventsOf before peer ++ eventsOf after peer :=
  List.filterMap_append

theorem mem_eventsOf {history : List Happening} {peer : String} {event : Event} :
    event ∈ eventsOf history peer ↔ (peer, event) ∈ history := by
  simp only [eventsOf, List.mem_filterMap, Option.ite_none_right_eq_some, Option.some.injEq]
  constructor
  · rintro ⟨⟨there, event⟩, mem, rfl, rfl⟩
    exact mem
  · exact fun mem => ⟨(peer, event), mem, rfl, rfl⟩

namespace Round

variable {params : String → StateMachineParams} {peers : List String} {gathering closing : List Happening}

theorem nodeOf_append (before after : List Happening) (peer : String) :
    nodeOf params (before ++ after) peer = (nodeOf params before peer).run (params peer) (eventsOf after peer) := by
  rw [nodeOf, eventsOf_append, Node.run_append]
  rfl

theorem mem_sent {wake : Wake} {history : List Happening} :
    wake ∈ sent params peers history ↔ ∃ peer ∈ peers, wake ∈ (nodeOf params history peer).broadcasts :=
  List.mem_flatMap

variable (round : Round params peers gathering closing)
include round

/-- What happens in a round is local wakes, windows and the WAKEs of the gathering. -/
theorem happens {peer : String} {event : Event} (mem : event ∈ eventsOf (gathering ++ closing) peer) :
    peer ∈ peers ∧ (event.wakesLocally = true ∨ event.closesWindow = true ∨
      ∃ wake ∈ sent params peers gathering, event.wake = some wake ∧ wake.report.peerId ≠ peer) := by
  obtain ⟨before, after, same⟩ := List.append_of_mem (mem_eventsOf.mp mem)
  have along := round.allowed
  rw [same] at along
  obtain ⟨known, happens⟩ := along.append.1
  rw [List.foldl_append_eq_append, List.nil_append, ← List.flatMap_def, List.flatMap_singleton'] at happens
  refine ⟨known, happens.imp_right (Or.imp_right fun ⟨wake, wakes, arrives, foreign⟩ => ⟨wake, ?_, arrives, foreign⟩)⟩
  obtain ⟨sender, is, broadcast⟩ := mem_sent.mp wakes
  refine mem_sent.mpr ⟨sender, is, ?_⟩
  rw [← round.quiet sender is, same, nodeOf_append]
  exact (Node.broadcasts_run _ _ _).subset broadcast

theorem inRound {peer : String} {event : Event} (mem : event ∈ eventsOf (gathering ++ closing) peer) :
    Node.InRound (sent params peers gathering) event :=
  (round.happens mem).2.imp_right (Or.imp_right fun ⟨wake, sent, arrives, _⟩ => ⟨wake, sent, arrives⟩)

-- A WAKE that arrives at a peer has arrived there in the gathering.
theorem arrives {peer : String} {event : Event} {wake : Wake} (mem : event ∈ eventsOf (gathering ++ closing) peer)
    (same : event.wake = some wake) :
    wake ∈ sent params peers gathering ∧ ∃ event ∈ eventsOf gathering peer, event.wake = some wake := by
  obtain ⟨is, own | window | ⟨other, sent, arrives, foreign⟩⟩ := round.happens mem
  · cases event with
    | localWake => cases same
    | _ => cases own
  · cases event with
    | timerFired => cases same
    | _ => cases window
  · obtain rfl := Option.some.inj (same.symm.trans arrives)
    obtain ⟨⟨there, event⟩, happened, rfl, same⟩ := round.reaches wake sent peer is foreign.symm
    exact ⟨sent, event, mem_eventsOf.mpr happened, same⟩

theorem inGathering {peer : String} {event : Event} (mem : event ∈ eventsOf gathering peer) :
    Node.InRound (sent params peers gathering) event ∧ event.closesWindow = false := by
  have whole : event ∈ eventsOf (gathering ++ closing) peer := by
    rw [eventsOf_append]
    exact List.mem_append_left _ mem
  exact ⟨round.inRound whole, round.opened _ (mem_eventsOf.mp mem)⟩

theorem mem_sent_bid {wake : Wake} :
    wake ∈ sent params peers gathering ↔
      wake.report.peerId ∈ peers ∧ wake ∈ Node.bid (params wake.report.peerId) (eventsOf gathering wake.report.peerId) := by
  have broadcasts : ∀ peer, (nodeOf params gathering peer).broadcasts = Node.bid (params peer) (eventsOf gathering peer) :=
    fun peer => Node.start_broadcasts fun _ mem => round.inGathering mem
  simp only [mem_sent, broadcasts]
  constructor
  · rintro ⟨peer, is, mem⟩
    have own : wake.report.peerId = peer := (Node.bid_peerId mem).trans (round.named peer is)
    exact own ▸ ⟨is, mem⟩
  · exact fun ⟨is, mem⟩ => ⟨_, is, mem⟩

theorem bid_subset {peer : String} (is : peer ∈ peers) :
    Node.bid (params peer) (eventsOf gathering peer) ⊆ sent params peers gathering := by
  intro wake mem
  have same : wake.report.peerId = peer := (Node.bid_peerId mem).trans (round.named peer is)
  exact round.mem_sent_bid.mpr (same.symm ▸ ⟨is, mem⟩)

theorem apart : Apart (sent params peers gathering) := by
  intro one here other there same
  rcases same with epoch | peer
  · exact List.inj_on_of_nodup_map round.epochs here there epoch
  · have mine := (round.mem_sent_bid.mp here).2
    rw [peer] at mine
    exact Node.bid_unique mine (round.mem_sent_bid.mp there).2

-- The first event of a peer that has woken is a bid or a WAKE of another.
theorem exists_sent : ∃ wake, wake ∈ sent params peers gathering := by
  obtain ⟨⟨peer, event⟩, happened, -⟩ := round.woken
  have mem := mem_eventsOf.mpr happened
  obtain ⟨first, rest, events⟩ := List.exists_cons_of_ne_nil (List.ne_nil_of_mem mem)
  have there : first ∈ eventsOf gathering peer := events ▸ List.mem_cons_self
  have is := (round.happens (eventsOf_append gathering closing peer ▸ List.mem_append_left _ there)).1
  have own := round.bid_subset is
  rw [events] at own
  rcases (round.inGathering there).1 with wakes | window | ⟨wake, sent, -⟩
  · cases first with
    | localWake score snrDb rmsDbfs canServe now fresh => exact ⟨_, own List.mem_cons_self⟩
    | _ => cases wakes
  · exact absurd window (by simp [(round.inGathering there).2])
  · exact ⟨wake, sent⟩

/-- The WAKE with the smallest epoch. -/
theorem exists_smallest : ∃ least ∈ sent params peers gathering, ∀ wake ∈ sent params peers gathering, least.epoch ≤ wake.epoch := by
  obtain ⟨wake, mem⟩ := round.exists_sent
  obtain ⟨least, is, below⟩ :=
    Finset.exists_min_image (sent params peers gathering).toFinset Wake.epoch ⟨wake, List.mem_toFinset.mpr mem⟩
  exact ⟨least, List.mem_toFinset.mp is, fun other there => below other (List.mem_toFinset.mpr there)⟩

theorem reached {peer : String} (is : peer ∈ peers) : eventsOf gathering peer ≠ [] := by
  obtain ⟨wake, mem⟩ := round.exists_sent
  by_cases own : peer = wake.report.peerId
  · intro empty
    have bid := (round.mem_sent_bid.mp mem).2
    rw [← own, empty] at bid
    cases bid
  · obtain ⟨⟨there, event⟩, happened, rfl, -⟩ := round.reaches wake mem peer is own
    exact List.ne_nil_of_mem (mem_eventsOf.mpr happened)

/-- What a peer has recorded when the windows close, and what still happens to it. -/
theorem gathered {peer : String} (is : peer ∈ peers) :
    (nodeOf params gathering peer).Gathers (records (params peer) (eventsOf gathering peer)) ∧
      Sorted (sent params peers gathering) (records (params peer) (eventsOf gathering peer)) ∧
      ((nodeOf params gathering peer).StandsDown ↔ ∃ event ∈ (eventsOf gathering peer).tail, event.wakesLocally = true) ∧
      ∀ event ∈ eventsOf closing peer, Node.InRound (sent params peers gathering) event ∧
        record (params peer) (records (params peer) (eventsOf gathering peer)) event =
          records (params peer) (eventsOf gathering peer) := by
  obtain ⟨gathers, sorted, stands⟩ :=
    Node.start_run round.apart (round.reached is) (fun _ mem => round.inGathering mem) (round.bid_subset is)
  refine ⟨gathers, sorted, stands, fun event mem => ?_⟩
  have whole : event ∈ eventsOf (gathering ++ closing) peer := by
    rw [eventsOf_append]
    exact List.mem_append_right _ mem
  refine ⟨round.inRound whole, ?_⟩
  obtain ⟨last, older, heard, -⟩ := gathers.records
  rw [heard]
  refine record_eq fun wake same => ?_
  obtain ⟨-, event, there, same⟩ := round.arrives whole same
  exact (foldl_record_le heard).2 event there wake same

/-- Each peer whose ranking does not raise decides by its records. -/
theorem decided {peer winner : String} (is : peer ∈ peers)
    (wins : rank ((records (params peer) (eventsOf gathering peer)).map Wake.report) = .ok winner) :
    (nodeOf params (gathering ++ closing) peer).Decided (params peer) (records (params peer) (eventsOf gathering peer)) := by
  obtain ⟨gathers, sorted, -, later⟩ := round.gathered is
  have quiet := round.quiet peer is
  rw [nodeOf_append] at quiet ⊢
  obtain ⟨⟨there, event⟩, happened, rfl, closes⟩ := round.closed peer is
  exact Node.run_closing round.apart sorted wins gathers later quiet ⟨event, mem_eventsOf.mpr happened, closes⟩

theorem raised {peer : String} (is : peer ∈ peers)
    (raises : rank ((records (params peer) (eventsOf gathering peer)).map Wake.report) = .error .value) :
    ¬ (nodeOf params (gathering ++ closing) peer).Starts ∧
      ((nodeOf params (gathering ++ closing) peer).StandsDown ↔
        ∃ event ∈ (eventsOf (gathering ++ closing) peer).tail, event.wakesLocally = true) := by
  obtain ⟨gathers, sorted, stands, later⟩ := round.gathered is
  obtain ⟨last, both⟩ := Node.run_raising round.apart sorted raises gathers later
  rw [nodeOf_append, eventsOf_append, List.tail_append_of_ne_nil (round.reached is)]
  refine ⟨last.undecided, both.trans ?_⟩
  simp only [stands, List.mem_append, or_and_right, exists_or]

-- The peer with the smallest epoch records no WAKE but its own.
theorem records_smallest {least : Wake} (mem : least ∈ sent params peers gathering)
    (below : ∀ wake ∈ sent params peers gathering, least.epoch ≤ wake.epoch) :
    records (params least.report.peerId) (eventsOf gathering least.report.peerId) = [least] :=
  Node.records_of_bid (round.mem_sent_bid.mp mem).2 fun _ there wake same =>
    below wake (round.arrives (eventsOf_append gathering closing _ ▸ List.mem_append_left _ there) same).1

-- Every other peer has heard it, so that no peer but its own has one record of its own.
theorem peer_of_only {least own : Wake} {peer : String} (mem : least ∈ sent params peers gathering)
    (below : ∀ wake ∈ sent params peers gathering, least.epoch ≤ wake.epoch) (is : peer ∈ peers)
    (only : records (params peer) (eventsOf gathering peer) = [own]) (mine : own.report.peerId = peer) :
    peer = least.report.peerId := by
  by_contra other
  obtain ⟨⟨there, event⟩, happened, rfl, same⟩ := round.reaches least mem peer is other
  have smaller := (foldl_record_le only).2 event (mem_eventsOf.mpr happened) least same
  have sent := (round.gathered is).2.1.known (only ▸ List.mem_singleton_self own)
  obtain rfl := round.apart own sent least mem (.inl (le_antisymm smaller (below own sent)))
  exact other mine.symm

theorem records_ne_nil {peer : String} (is : peer ∈ peers) :
    (records (params peer) (eventsOf gathering peer)).map Wake.report ≠ [] := by
  obtain ⟨last, older, heard, -⟩ := (round.gathered is).1.records
  rw [heard]
  exact List.cons_ne_nil _ _

-- A peer that ranks first among its records has its own WAKE there.
theorem own_of_first {peer : String} (is : peer ∈ peers)
    (first : rank ((records (params peer) (eventsOf gathering peer)).map Wake.report) = .ok (params peer).peerId) :
    ∃ own ∈ records (params peer) (eventsOf gathering peer), own.report.peerId = peer := by
  rcases rank_cases (round.records_ne_nil is) with ⟨report, mem, wins⟩ | raises
  · obtain ⟨own, there, rfl⟩ := List.mem_map.mp mem
    exact ⟨own, there, (Except.ok.inj (wins.symm.trans first)).trans (round.named peer is)⟩
  · exact nomatch raises.symm.trans first

-- Only a peer with one record, the smallest, ranks first, if none does that was overtaken.
theorem behind {least : Wake} {peer : String} (mem : least ∈ sent params peers gathering)
    (below : ∀ wake ∈ sent params peers gathering, least.epoch ≤ wake.epoch) (is : peer ∈ peers) (distinct : peer ≠ least.report.peerId)
    (never : ¬ (1 < (records (params peer) (eventsOf gathering peer)).length ∧
      rank ((records (params peer) (eventsOf gathering peer)).map Wake.report) = .ok peer)) :
    rank ((records (params peer) (eventsOf gathering peer)).map Wake.report) ≠ .ok (params peer).peerId := by
  intro first
  obtain ⟨own, there, mine⟩ := round.own_of_first is first
  rw [round.named peer is] at first
  have short := not_lt.mp fun long => never ⟨long, first⟩
  obtain ⟨only, heard⟩ := List.length_eq_one_iff.mp (le_antisymm short (List.length_pos_of_mem there))
  rw [heard] at there
  obtain rfl := List.mem_singleton.mp there
  exact distinct (round.peer_of_only mem below is heard mine)

end Round

theorem wake_arbitration_agrees {params : String → StateMachineParams} {peers : List String}
    {gathering closing : List Happening} (round : Round params peers gathering closing) :
    Agreed params peers (gathering ++ closing) ↔
      ∀ peer ∈ peers,
        ¬ (1 < (records (params peer) (eventsOf gathering peer)).length ∧
          rank ((records (params peer) (eventsOf gathering peer)).map Wake.report) = .ok peer) ∧
        ¬ Stranded params gathering closing peer := by
  obtain ⟨least, mem, below⟩ := round.exists_smallest
  have is := (round.mem_sent_bid.mp mem).1
  have alone := round.records_smallest mem below
  have wins : rank ((records (params least.report.peerId) (eventsOf gathering least.report.peerId)).map Wake.report) =
      .ok least.report.peerId := by
    rw [alone]
    exact rank_singleton least.report
  have starts : (nodeOf params (gathering ++ closing) least.report.peerId).Starts := by
    refine (round.decided is wins).chosen ?_
    rw [wins, round.named _ is]
  constructor
  · rintro ⟨winner, -, -, others⟩ peer known
    have only : least.report.peerId = winner := by
      by_contra other
      exact (others _ is other).1 starts
    constructor
    · rintro ⟨overtaken, first⟩
      have same : peer ≠ winner := by
        rintro rfl
        simp [← only, alone] at overtaken
      refine (others peer known same).1 ((round.decided known first).chosen ?_)
      rw [first, round.named peer known]
    · rintro ⟨raises, woken, never⟩
      have same : peer ≠ winner := by
        rintro rfl
        rw [← only] at raises
        exact nomatch raises.symm.trans wins
      exact never ((round.raised known raises).2.mp ((others peer known same).2 woken))
  · intro never
    refine ⟨least.report.peerId, is, starts, fun other known distinct => ?_⟩
    have behind := round.behind mem below known distinct (never other known).1
    rcases rank_cases (round.records_ne_nil known) with ⟨report, -, wins⟩ | raises
    · have passed := (round.decided known wins).passed behind
      exact ⟨passed.1, fun _ => passed.2⟩
    · refine ⟨(round.raised known raises).1, fun woken => (round.raised known raises).2.mpr ?_⟩
      by_contra none_
      exact (never other known).2 ⟨raises, woken, none_⟩

def household (peer : String) : StateMachineParams := ⟨peer, false, binary64.nearest (3 / 20), double (.finite (17 / 20)), 1, 2⟩

section Simultaneous

variable (hall kitchen : ℚ)

def wakeReport (peer : String) (score : ℚ) : WakeReport := ⟨peer, .clamp (double (.finite score)), none, none, false, true⟩

-- Both detectors fire, and then each WAKE arrives.
def bothWake : List Happening :=
  [("hall", .localWake (double (.finite hall)) none none true 0 "1b"), ("kitchen", .localWake (double (.finite kitchen)) none none true 0 "9c"),
    ("hall", .peerWake "9c" (wakeReport "kitchen" kitchen) (1 / 8)),
    ("kitchen", .peerWake "1b" (wakeReport "hall" hall) (1 / 8))]

def bothClose : List Happening :=
  [("hall", .timerFired .arbWindow (1 / 4)), ("kitchen", .timerFired .arbWindow (1 / 4))]

end Simultaneous

-- The louder wake has the smaller epoch, and the one that it overtakes ranks behind it.
theorem louder_smaller_agrees :
    Round household ["hall", "kitchen"] (bothWake (9 / 10) (3 / 5)) bothClose ∧
      Agreed household ["hall", "kitchen"] (bothWake (9 / 10) (3 / 5) ++ bothClose) := by
  have round : Round household ["hall", "kitchen"] (bothWake (9 / 10) (3 / 5)) bothClose := by
    constructor <;> decide +kernel
  exact ⟨round, (wake_arbitration_agrees round).mpr (by decide +kernel)⟩

/-- The louder wake has the larger epoch. It leaves no record at the other peer, and both start a session. -/
theorem both_peers_start :
    Round household ["hall", "kitchen"] (bothWake (3 / 5) (9 / 10)) bothClose ∧
      ¬ Agreed household ["hall", "kitchen"] (bothWake (3 / 5) (9 / 10) ++ bothClose) := by
  refine ⟨by constructor <;> decide +kernel, fun ⟨winner, _, _, others⟩ => ?_⟩
  by_cases hall : winner = "hall"
  · exact (others "kitchen" (by decide) (hall ▸ by decide)).1 ⟨"1b", by decide +kernel⟩
  · exact (others "hall" (by decide) (Ne.symm hall)).1 ⟨"1b", by decide +kernel⟩

end Jts.Peering
