import Jts.Peering.Clocked

set_option autoImplicit false

namespace Jts.Peering

open Jts.Shared.Transition PeeringStateMachine
open Shared.PythonJson.PyFloat (double)

/-- The epoch that a message of a peer is about. -/
def Event.about : Event → Option String
  | .peerWake epoch _ _ | .peerClaim epoch _ _ | .peerHeartbeat epoch _ _ | .peerEnd epoch _ _ _ => some epoch
  | _ => none

/-- A CLAIM of another peer. -/
def Event.claims (own : String) : Event → Bool
  | .peerClaim _ peerId _ => peerId ≠ own
  | _ => false

def Action.ended : Action → Option String
  | .broadcastEnd epoch _ => some epoch
  | _ => none

/-- The message is about some other epoch. -/
def Event.Elsewhere (epoch : String) (event : Event) : Prop := ∃ about, event.about = some about ∧ about ≠ epoch

namespace Clocked

variable {params : StateMachineParams} {c : Clocked} {epoch : String} {event : Event}

def run (params : StateMachineParams) (clocked : Clocked) : List Event → Clocked × List Action
  | [] => (clocked, [])
  | event :: events =>
      let next := run params (clocked.handle params event) events
      (next.1, (clocked.machine.handle params event).2 ++ next.2)

/-- A peer that has told its voice to start a session, or that has one. -/
def Session (epoch : String) (clocked : Clocked) : Prop :=
  (clocked.machine.state = .winner ∨ clocked.machine.state = .active) ∧ clocked.machine.holds epoch = true

theorem holds_iff {machine : PeeringStateMachine} :
    machine.holds epoch = true ↔ ∃ held, machine.epoch = some held ∧ held.epoch = epoch := by
  rw [holds, Option.any_eq_true]
  simp only [decide_eq_true_eq]

theorem handle_same (same : c.machine.handle params event = (c.machine, [])) (message : event.about ≠ none) :
    c.handle params event = c := by
  rw [handle, same]
  cases event with
  | timerFired => exact absurd rfl message
  | _ => rfl

-- Only a CLAIM about another epoch reaches a session, and only before its voice has confirmed it.
theorem machine_session (session : c.Session epoch) (elsewhere : event.Elsewhere epoch)
    (free : ¬ (c.machine.state = .winner ∧ event.claims params.peerId = true)) :
    c.machine.handle params event = (c.machine, []) := by
  obtain ⟨about, same, other⟩ := elsewhere
  cases event with
  | peerWake heard report now =>
    rcases session.1 with state | state <;> simp [PeeringStateMachine.handle, onPeerWake, state]
  | peerClaim claimed peerId now =>
    by_cases own : peerId = params.peerId
    · simp [PeeringStateMachine.handle, onPeerClaim, own]
    · rcases session.1 with state | state
      · exact absurd ⟨state, decide_eq_true own⟩ free
      · simp [PeeringStateMachine.handle, onPeerClaim, state]
  | peerHeartbeat heard peerId now =>
    rcases session.1 with state | state <;> simp [PeeringStateMachine.handle, onPeerHeartbeat, state]
  | peerEnd ended peerId reason now =>
    rcases session.1 with state | state <;> simp [PeeringStateMachine.handle, onPeerEnd, state]
  | _ => cases same

theorem machine_claim (state : c.machine.state = .winner) (session : c.Session epoch) (elsewhere : event.Elsewhere epoch)
    (claims : event.claims params.peerId = true) : (c.handle params event).machine.state = .suppressed := by
  obtain ⟨about, same, other⟩ := elsewhere
  cases event with
  | peerClaim claimed peerId now =>
    cases same
    have foreign : peerId ≠ params.peerId := of_decide_eq_true claims
    have free : c.machine.holds about = false := by
      obtain ⟨held, is, named⟩ := holds_iff.mp session.2
      simp [holds, is, named, Ne.symm other]
    simp [handle, after, PeeringStateMachine.handle, onPeerClaim, foreign, state, free, suppress]
  | _ => cases claims

-- No message makes a winner.
theorem message_idle (message : event.about ≠ none) (before : c.machine.state ≠ .winner) :
    (c.handle params event).machine.state ≠ .winner := by
  cases event with
  | peerWake heard report now =>
    simp only [handle, after, PeeringStateMachine.handle, onPeerWake]
    split <;> simp_all
  | peerClaim claimed peerId now =>
    simp only [handle, after, PeeringStateMachine.handle, onPeerClaim]
    split
    · exact before
    · split
      · simp_all
      · split <;> simp [suppress]
      · split
        · simp [suppress]
        · simp_all
      all_goals simp [suppress]
  | peerHeartbeat heard peerId now =>
    simp only [handle, after, PeeringStateMachine.handle, onPeerHeartbeat]
    split <;> simp_all
  | peerEnd ended peerId reason now =>
    simp only [handle, after, PeeringStateMachine.handle, onPeerEnd]
    split <;> simp_all
  | _ => exact absurd rfl message

theorem run_idle {messages : List Event} (all : ∀ message ∈ messages, message.about ≠ none)
    (before : c.machine.state ≠ .winner) : (c.run params messages).1.machine.state ≠ .winner := by
  induction messages generalizing c with
  | nil => exact before
  | cons message messages ih =>
    obtain ⟨here, later⟩ := List.forall_mem_cons.mp all
    exact ih later (message_idle here before)

/-- A session does not notice messages about other epochs, unless one is a CLAIM that comes before its voice confirms it. -/
theorem run_session {messages : List Event} (session : c.Session epoch)
    (elsewhere : ∀ message ∈ messages, message.Elsewhere epoch) :
    c.run params messages = (c, []) ↔
      ¬ (c.machine.state = .winner ∧ ∃ message ∈ messages, message.claims params.peerId = true) := by
  have messages_ : ∀ message ∈ messages, message.about ≠ none := fun message mem none_ => by
    obtain ⟨about, same, -⟩ := elsewhere message mem
    rw [none_] at same
    cases same
  induction messages with
  | nil => exact ⟨fun _ => by simp, fun _ => rfl⟩
  | cons message messages ih =>
    obtain ⟨here, later⟩ := List.forall_mem_cons.mp elsewhere
    obtain ⟨is, are⟩ := List.forall_mem_cons.mp messages_
    by_cases lost : c.machine.state = .winner ∧ message.claims params.peerId = true
    · have suppressed := machine_claim lost.1 session here lost.2
      have gone : ((c.handle params message).run params messages).1.machine.state ≠ .winner :=
        run_idle are (by rw [suppressed]; decide)
      constructor
      · intro same
        have stayed := congrArg (·.1.machine.state) same
        exact absurd (stayed.trans lost.1) gone
      · exact fun free => absurd ⟨lost.1, message, List.mem_cons_self, lost.2⟩ free
    · have same := machine_session session here lost
      rw [run, handle_same same is, same, List.nil_append]
      refine (ih later are).trans (not_congr (and_congr_right fun winner => ?_))
      have other : message.claims params.peerId = false := by simpa [winner] using lost
      simp [other]

-- Nothing but the notice of its end ends a session that its voice has confirmed.
theorem handle_active (state : c.machine.state = .active) (session : c.machine.holds epoch = true)
    (lasts : ∀ reason now, event ≠ .voiceSessionEnded epoch reason now) :
    (c.handle params event).machine.state = .active ∧ (c.handle params event).machine.holds epoch = true := by
  obtain ⟨held, is, rfl⟩ := holds_iff.mp session
  cases event with
  | localWake => simp [handle, after, PeeringStateMachine.handle, onLocalWake, state, session]
  | peerWake => simp [handle, after, PeeringStateMachine.handle, onPeerWake, state, session]
  | peerClaim claimed peerId now =>
    by_cases own : peerId = params.peerId <;>
      simp [handle, after, PeeringStateMachine.handle, onPeerClaim, state, session, own]
  | peerHeartbeat => simp [handle, after, PeeringStateMachine.handle, onPeerHeartbeat, state, session]
  | peerEnd => simp [handle, after, PeeringStateMachine.handle, onPeerEnd, state, session]
  | timerFired timer now =>
    cases timer <;> simp [handle, after, PeeringStateMachine.handle, onTimer, closeArbitration, sendHeartbeatAndReschedule,
      onHeartbeatTimeout, state, is, session]
  | voiceSessionStarted => simp [handle, after, PeeringStateMachine.handle, onVoiceStarted, state, session]
  | voiceSessionEnded ended reason now =>
    have other : held.epoch ≠ ended := fun same => lasts reason now (same ▸ rfl)
    simp [handle, after, PeeringStateMachine.handle, onVoiceEnded, state, holds, is, other]

theorem handle_ended (state : c.machine.state = .active) (session : c.machine.holds epoch = true) (reason : String) (now : Time) :
    c.machine.handle params (.voiceSessionEnded epoch reason now) =
      ({ c.machine with state := .idle, epoch := none }, [.broadcastEnd epoch reason, .cancelTimer .heartSend]) := by
  simp [PeeringStateMachine.handle, onVoiceEnded, state, session, resetEpoch]

-- A CLAIM about another epoch does not reach a bid.
theorem handle_candidate (state : c.machine.state = .candidate) (other : c.machine.holds epoch = false) (peerId : String)
    (now : Time) : c.run params [.peerClaim epoch peerId now] = (c, []) := by
  have same : c.machine.handle params (.peerClaim epoch peerId now) = (c.machine, []) := by
    simp [PeeringStateMachine.handle, onPeerClaim, state, other]
  rw [run, handle_same same (by simp [Event.about]), same]
  rfl

-- Only a window that the peer has won starts a session.
theorem session_of_start (starts : .startSession epoch ∈ (c.machine.handle params event).2) :
    (c.handle params event).Session epoch := by
  cases event with
  | localWake =>
    simp only [PeeringStateMachine.handle, onLocalWake] at starts
    split at starts
    · split at starts <;> simp [beginCandidate] at starts
    all_goals simp [beginCandidate] at starts
  | peerWake =>
    simp only [PeeringStateMachine.handle, onPeerWake] at starts
    split at starts <;> simp at starts
  | peerClaim =>
    simp only [PeeringStateMachine.handle, onPeerClaim] at starts
    repeat' split at starts
    all_goals simp [suppress] at starts
  | peerHeartbeat =>
    simp only [PeeringStateMachine.handle, onPeerHeartbeat] at starts
    split at starts <;> simp at starts
  | peerEnd =>
    simp only [PeeringStateMachine.handle, onPeerEnd] at starts
    split at starts <;> simp at starts
  | timerFired timer now =>
    cases timer with
    | arbWindow =>
      simp only [Session, handle, after, PeeringStateMachine.handle, onTimer, closeArbitration] at starts ⊢
      split at starts
      · split at starts
        · cases starts
        · split at starts
          · cases starts
          · split at starts
            · simp_all [holds]
            · simp [suppress] at starts
      · cases starts
    | heartSend =>
      simp only [PeeringStateMachine.handle, onTimer, sendHeartbeatAndReschedule] at starts
      split at starts <;> simp at starts
    | heartTimeout =>
      simp only [PeeringStateMachine.handle, onTimer, onHeartbeatTimeout] at starts
      split at starts <;> simp at starts
  | voiceSessionStarted =>
    simp only [PeeringStateMachine.handle, onVoiceStarted, sendHeartbeatAndReschedule] at starts
    repeat' split at starts
    all_goals simp at starts
  | voiceSessionEnded =>
    simp only [PeeringStateMachine.handle, onVoiceEnded] at starts
    split at starts <;> simp at starts

theorem kept_of_reachable (reached : Reachable (clocked params) c) : c.Kept :=
  reached.invariant (fun _ same => same ▸ trivial) fun _ event _ kept move => move ▸ handle_kept kept event

end Clocked

/-- A session, once started, does not notice the others, until they claim before its voice has confirmed it. -/
theorem session_sticks {params : StateMachineParams} {c : Clocked} (reached : Reachable (Clocked.clocked params) c) :
    (∀ event epoch, .startSession epoch ∈ (c.machine.handle params event).2 → (c.handle params event).Session epoch) ∧
    (∀ epoch messages, c.Session epoch → (∀ message ∈ messages, message.Elsewhere epoch) →
      (c.run params messages = (c, []) ↔
        ¬ (c.machine.state = .winner ∧ ∃ message ∈ messages, message.claims params.peerId = true))) ∧
    (∀ epoch peerId now, c.machine.state = .candidate → c.machine.holds epoch = false →
      c.run params [.peerClaim epoch peerId now] = (c, [])) ∧
    ∀ epoch, c.machine.state = .active → c.machine.holds epoch = true →
      (c.timers .heartSend).isSome ∧
      (∀ event, (∀ reason now, event ≠ .voiceSessionEnded epoch reason now) →
        (c.handle params event).machine.state = .active ∧ (c.handle params event).machine.holds epoch = true) ∧
      ∀ reason now, (c.handle params (.voiceSessionEnded epoch reason now)).machine.state = .idle ∧
        (c.machine.handle params (.voiceSessionEnded epoch reason now)).2.filterMap Action.ended = [epoch] := by
  refine ⟨fun _ _ starts => Clocked.session_of_start starts, fun _ _ session elsewhere => Clocked.run_session session elsewhere,
    fun _ peerId now state other => Clocked.handle_candidate state other peerId now, fun epoch state session => ⟨?_, ?_, ?_⟩⟩
  · have kept := Clocked.kept_of_reachable reached
    rw [Clocked.Kept, state] at kept
    exact kept.2
  · exact fun event lasts => Clocked.handle_active state session lasts
  · intro reason now
    rw [Clocked.handle, Clocked.handle_ended state session]
    exact ⟨rfl, rfl⟩

-- The detector fires, and the window closes with no other report.
def hallWon : Clocked :=
  [.localWake (double (.finite (9 / 10))) none none true 0 "1b", .timerFired .arbWindow (1 / 4)].foldl (Clocked.handle hall) .start

theorem reachable_hallWon : Reachable (Clocked.clocked hall) hallWon :=
  @reachable_foldl _ _ (· = Clocked.start) (Clocked.handle hall) _ rfl _

theorem session_sticks_at_messages :
    hallWon.Session "1b" ∧
      hallWon.run hall [.peerWake "9c" ⟨"kitchen", .one, none, none, false, true⟩ (1 / 2), .peerEnd "9c" "kitchen" "ended" 1] =
        (hallWon, []) := by
  have session : hallWon.Session "1b" := ⟨.inl (by decide +kernel), by decide +kernel⟩
  refine ⟨session, ((session_sticks reachable_hallWon).2.1 "1b" _ session ?_).mpr (by decide +kernel)⟩
  exact List.forall_mem_cons.mpr ⟨⟨"9c", rfl, by decide⟩, List.forall_mem_singleton.mpr ⟨"9c", rfl, by decide⟩⟩

/-- A CLAIM about another epoch suppresses the winner, and the session that its voice then opens has neither heartbeat nor END. -/
theorem claim_takes_the_session :
    Reachable (Clocked.clocked hall) hallWon ∧ hallWon.Session "1b" ∧
      (Event.peerClaim "9c" "kitchen" (1 / 2)).Elsewhere "1b" ∧
      (hallWon.run hall [.peerClaim "9c" "kitchen" (1 / 2)]).1.machine.state = .suppressed ∧
      (hallWon.run hall [.peerClaim "9c" "kitchen" (1 / 2), .voiceSessionStarted "1b" (3 / 4),
        .voiceSessionEnded "1b" "ended" 2]).2 = [.scheduleTimer .heartTimeout (5 / 2)] :=
  ⟨reachable_hallWon, ⟨.inl (by decide +kernel), by decide +kernel⟩, ⟨"9c", rfl, by decide⟩, by decide +kernel,
    by decide +kernel⟩

end Jts.Peering
