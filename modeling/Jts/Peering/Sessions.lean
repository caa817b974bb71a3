import Jts.Peering.Daemon

set_option autoImplicit false

namespace Jts.Peering

open Jts.Shared.Transition PeeringStateMachine
open Shared.PythonJson (PyFloat)
open Shared.PythonJson.PyFloat (Double double)

/-- The session that a request has won is the one that the machine holds, until a notice of its end. -/
def Request.Linked (machine : PeeringStateMachine) (request : Request) : Prop :=
  ∀ epoch, request.decision = some (.won epoch) → request.ended = false →
    machine.holds epoch = true ∧ machine.state = if request.started then .active else .winner

namespace Daemon

def Linked (daemon : Daemon) : Prop := ∀ request ∈ daemon.requests, request.Linked daemon.machine

/-- What a call does for the sessions of requests. A win is of the epoch that the machine then holds. The notice of a start that
names the epoch of the reply makes the session active, and the notice of its end makes the peer idle. -/
structure Serves (daemon : Daemon) (call : Call) (next : Daemon) : Prop where
  wins : ∀ epoch, daemon.awaits = true → next.pending.any (·.due = some epoch) = true →
    next.machine.state = .winner ∧ next.machine.holds epoch = true
  starts : ∀ request ∈ daemon.requests, ∀ epoch reply now, request.decision = some (.won epoch) → request.answered = some reply →
    request.started = false → request.ended = false → call = .sessionStarted reply now →
      next.machine.state = .active ∧ next.machine.holds reply = true
  ends : ∀ request ∈ daemon.requests, ∀ epoch reply reason now, request.decision = some (.won epoch) → request.answered = some reply →
    request.ended = false → call = .sessionEnded reply reason now → next.machine.state = .idle

section Machine

variable {params : StateMachineParams} {machine : PeeringStateMachine} {epoch : String}

-- Only its voice ends a session, or another peer that claims it before it has started.
theorem handle_session (live : machine.state = .winner ∨ machine.state = .active) (event : Event)
    (voiceless : ∀ epoch now, event ≠ .voiceSessionStarted epoch now) (lasts : ∀ epoch reason now, event ≠ .voiceSessionEnded epoch reason now)
    (unclaimed : ∀ claimed peerId now, event = .peerClaim claimed peerId now → ¬ (machine.state = .winner ∧ peerId ≠ params.peerId)) :
    (machine.handle params event).1 = machine := by
  cases event with
  | localWake => rcases live with state | state <;> simp [handle, onLocalWake, state]
  | peerWake => rcases live with state | state <;> simp [handle, onPeerWake, state]
  | peerClaim claimed peerId now =>
    by_cases own : peerId = params.peerId
    · simp [handle, onPeerClaim, own]
    · rcases live with state | state
      · exact absurd ⟨state, own⟩ (unclaimed claimed peerId now rfl)
      · simp [handle, onPeerClaim, own, state]
  | peerHeartbeat => rcases live with state | state <;> simp [handle, onPeerHeartbeat, state]
  | peerEnd => rcases live with state | state <;> simp [handle, onPeerEnd, state]
  | timerFired timer now =>
    cases timer with
    | arbWindow => rcases live with state | state <;> simp [handle, onTimer, closeArbitration, state]
    | heartSend =>
      simp only [handle, onTimer, sendHeartbeatAndReschedule]
      split <;> rfl
    | heartTimeout => rcases live with state | state <;> simp [handle, onTimer, onHeartbeatTimeout, state]
  | voiceSessionStarted started now => exact absurd rfl (voiceless started now)
  | voiceSessionEnded ended reason now => exact absurd rfl (lasts ended reason now)

theorem holds_unique {other : String} (holds : machine.holds epoch = true) (others : machine.holds other = true) : epoch = other := by
  cases held : machine.epoch with
  | none => simp [PeeringStateMachine.holds, held] at holds
  | some named =>
    simp only [PeeringStateMachine.holds, held, Option.any_some, decide_eq_true_eq] at holds others
    exact holds.symm.trans others

theorem handle_started (winner : machine.state = .winner) (holds : machine.holds epoch = true) (now : Time) :
    (machine.handle params (.voiceSessionStarted epoch now)).1 = { machine with state := .active } := by
  simp only [handle, onVoiceStarted, winner, holds, and_self, if_true, sendHeartbeatAndReschedule]
  split <;> rfl

theorem handle_ended (active : machine.state = .active) (holds : machine.holds epoch = true) (reason : String) (now : Time) :
    (machine.handle params (.voiceSessionEnded epoch reason now)).1.state = .idle := by
  simp [handle, onVoiceEnded, active, holds]

end Machine

section Link

variable {params : StateMachineParams} {d : Daemon} {event : Event}

theorem not_due {pending : Option Request} (undecided : pending.any (·.undecided) = true) (epoch : String) :
    pending.any (·.due = some epoch) = false := by
  rcases pending with _ | ⟨_ | decision, answered, started, ended⟩
  · rfl
  · rfl
  · cases undecided

theorem Sound.exists_pending (sound : d.Sound) (awaits : d.awaits = true) : d.pending = some .asked := by
  obtain ⟨request, is, open_⟩ := (Option.any_eq_true _ _).mp awaits
  rw [is, sound.unanswered request (List.mem_append_left _ (Option.mem_toList.mpr is)) open_]

theorem Sound.exists_held (sound : d.Sound) (awaits : d.awaits = true) :
    d.machine.state = .candidate ∧ ∃ held, d.machine.epoch = some held ∧ held.reports ≠ [] := by
  have candidate := (sound.bidding awaits).1
  have before := sound.kept
  rw [Clocked.Kept, show d.clocked.machine.state = _ from candidate] at before
  exact ⟨candidate, before⟩

/-- A request that awaits its decision gets none, loses, or wins the epoch that is then held. -/
theorem dispatch_decides (sound : d.Sound) (awaits : d.awaits = true) (event : Event) :
    (d.dispatch params event).pending = some .asked ∨
      (d.dispatch params event).pending = some (Request.asked.decide .lost) ∨
      ∃ epoch, (d.dispatch params event).pending = some (Request.asked.decide (.won epoch)) ∧
        (d.dispatch params event).machine.state = .winner ∧ (d.dispatch params event).machine.holds epoch = true := by
  have pending := sound.exists_pending awaits
  obtain ⟨candidate, held, same, some_⟩ := sound.exists_held awaits
  rcases @handle_bid params _ _ candidate same some_ event with stays | ⟨heard, report, now, -, hears⟩ | ⟨actions, lost⟩ | ⟨now, rfl, -, wins⟩
  · exact .inl (by rw [dispatch, stays]; exact pending)
  · exact .inl (by rw [dispatch, hears]; exact pending)
  · refine .inr (.inl ?_)
    rw [dispatch, lost, foldl_resolve_lost, pending]
    rfl
  · have machine : (d.dispatch params (.timerFired .arbWindow now)).machine = { d.machine with state := .winner } :=
      congrArg Prod.fst wins
    refine .inr (.inr ⟨held.epoch, ?_, ?_, ?_⟩)
    · rw [dispatch, wins, pending]
      rfl
    · rw [machine]
    · rw [machine]
      simp [holds, same]

theorem dispatch_wins {epoch : String} (sound : d.Sound) (awaits : d.awaits = true)
    (won : (d.dispatch params event).pending.any (·.due = some epoch) = true) :
    (d.dispatch params event).machine.state = .winner ∧ (d.dispatch params event).machine.holds epoch = true := by
  rcases @dispatch_decides params d sound awaits event with same | lost | ⟨named, wins, winner, held⟩
  · rw [same] at won
    cases won
  · rw [lost] at won
    cases won
  · rw [wins] at won
    obtain rfl : named = epoch := by simpa [Request.due, Request.decide, Request.asked] using won
    exact ⟨winner, held⟩

theorem Linked.live (linked : d.Linked) {request : Request} (mem : request ∈ d.requests) {epoch : String}
    (won : request.decision = some (.won epoch)) (live : request.ended = false) :
    d.machine.state = .winner ∨ d.machine.state = .active := by
  have state := (linked request mem epoch won live).2
  cases started : request.started
  · exact .inl (by simpa [started] using state)
  · exact .inr (by simpa [started] using state)

-- While the machine has no session, no request that was won is live.
theorem Linked.ended (linked : d.Linked) (idle : ¬ (d.machine.state = .winner ∨ d.machine.state = .active)) {request : Request}
    (mem : request ∈ d.requests) {epoch : String} (won : request.decision = some (.won epoch)) : request.ended = true := by
  by_contra live
  exact idle (linked.live mem won (by simpa using live))

/-- What is no notice of the voice leaves each live session as it is. -/
theorem dispatch_linked (sound : d.Sound) (linked : d.Linked) (voiceless : ∀ epoch now, event ≠ .voiceSessionStarted epoch now)
    (lasts : ∀ epoch reason now, event ≠ .voiceSessionEnded epoch reason now)
    (unclaimed : ∀ claimed peerId now, event = .peerClaim claimed peerId now → ¬ (d.machine.state = .winner ∧ peerId ≠ params.peerId)) :
    (d.dispatch params event).Linked := by
  intro request mem epoch won live
  by_cases awaits : d.awaits = true
  · have candidate := (sound.bidding awaits).1
    rcases List.mem_append.mp mem with mem | mem
    · rcases @dispatch_decides params d sound awaits event with same | lost | ⟨named, wins, winner, held⟩
      · rw [same] at mem
        obtain rfl := List.mem_singleton.mp mem
        cases won
      · rw [lost] at mem
        obtain rfl := List.mem_singleton.mp mem
        cases won
      · rw [wins] at mem
        obtain rfl := List.mem_singleton.mp mem
        obtain rfl : named = epoch := by simpa [Request.decide, Request.asked] using won
        exact ⟨held, winner⟩
    · have past := linked.ended (by simp [candidate]) (List.mem_append_right _ mem) won
      exact absurd (live.symm.trans past) (by decide)
  · have same : (d.dispatch params event).pending = d.pending := foldl_resolve _ _ (by simpa [Daemon.awaits] using awaits)
    have there : request ∈ d.requests := by rwa [requests, same] at mem
    have kept := @handle_session params d.machine (linked.live there won live) event voiceless lasts unclaimed
    rw [show (d.dispatch params event).machine = d.machine from kept]
    exact linked request there epoch won live

theorem onMulticastMessage_linked {sender : String} (sound : d.Sound) (linked : d.Linked)
    (voiceless : ∀ epoch now, event ≠ .voiceSessionStarted epoch now) (lasts : ∀ epoch reason now, event ≠ .voiceSessionEnded epoch reason now)
    (unclaimed : ∀ claimed peerId now, event = .peerClaim claimed peerId now → ¬ (d.machine.state = .winner ∧ peerId ≠ params.peerId)) :
    (d.onMulticastMessage params sender event).Linked := by
  unfold onMulticastMessage
  split
  · exact linked
  · exact dispatch_linked sound linked voiceless lasts unclaimed

-- The voice is told of a decision only once it is there, and it decides nothing.
theorem started_requests (d : Daemon) (epoch : String) (now : Time) :
    (d.dispatch params (.voiceSessionStarted epoch now)).requests = d.requests := by
  have quiet : (d.machine.handle params (.voiceSessionStarted epoch now)).2.foldl resolve d.pending = d.pending := by
    simp only [handle, onVoiceStarted, sendHeartbeatAndReschedule]
    split
    · split <;> rfl
    · rfl
  rw [requests, dispatch, quiet, requests]

theorem ended_requests (d : Daemon) (epoch reason : String) (now : Time) :
    (d.dispatch params (.voiceSessionEnded epoch reason now)).requests = d.requests := by
  have quiet : (d.machine.handle params (.voiceSessionEnded epoch reason now)).2.foldl resolve d.pending = d.pending := by
    simp only [handle, onVoiceEnded]
    split <;> rfl
  rw [requests, dispatch, quiet, requests]

theorem started_linked (linked : d.Linked) (epoch : String) (now : Time) :
    ((d.dispatch params (.voiceSessionStarted epoch now)).mark (.start epoch)).Linked := by
  intro request mem won is live
  obtain ⟨before, there, rfl⟩ := mem_mark.mp mem
  rw [started_requests] at there
  obtain ⟨held, state⟩ := linked before there won is live
  change (d.machine.handle params (.voiceSessionStarted epoch now)).1.holds won = true ∧
    (d.machine.handle params (.voiceSessionStarted epoch now)).1.state = _
  have named : before.decision = some (.won won) := is
  rw [show (before.start epoch).started = (before.started || decide (before.decision = some (.won epoch))) from rfl, named]
  cases started : before.started with
  | true =>
    rw [started, if_pos rfl] at state
    simp [handle, onVoiceStarted, state, held]
  | false =>
    rw [started, if_neg (by simp)] at state
    by_cases same : won = epoch
    · subst same
      rw [handle_started state held]
      exact ⟨held, by simp⟩
    · have other : d.machine.holds epoch = false := by
        by_contra also
        exact same (holds_unique held (by simpa using also))
      simp [handle, onVoiceStarted, other, held, state, same]

theorem ended_linked (linked : d.Linked) (epoch reason : String) (now : Time) :
    ((d.dispatch params (.voiceSessionEnded epoch reason now)).mark (.finish epoch)).Linked := by
  intro request mem won is live
  obtain ⟨before, there, rfl⟩ := mem_mark.mp mem
  rw [ended_requests] at there
  obtain ⟨still, other⟩ : before.ended = false ∧ ¬ before.decision = some (.won epoch) := by
    simpa [Request.finish] using live
  obtain ⟨held, state⟩ := linked before there won is still
  have apart : d.machine.holds epoch = false := by
    by_contra also
    exact other (is.trans (congrArg (fun epoch => some (Decision.won epoch)) (holds_unique held (by simpa using also))))
  have same : (d.machine.handle params (.voiceSessionEnded epoch reason now)).1 = d.machine := by simp [handle, onVoiceEnded, apart]
  change (d.machine.handle params (.voiceSessionEnded epoch reason now)).1.holds won = true ∧
    (d.machine.handle params (.voiceSessionEnded epoch reason now)).1.state = _
  rw [same]
  exact ⟨held, state⟩

theorem handleArbitrate_linked (linked : d.Linked) (score : Double) (snrDb rmsDbfs : Option Double) (canServe : Bool) (now : Time)
    (fresh : String) : (d.handleArbitrate params score snrDb rmsDbfs canServe now fresh).Linked := by
  have earlier {request : Request} (mem : request ∈ (d.pending.map (.decide .failedOpen)).toList ++ d.earlier) {epoch : String}
      (won : request.decision = some (.won epoch)) : request ∈ d.requests := by
    rcases List.mem_append.mp mem with mem | mem
    · obtain ⟨⟨_ | decision, answered, started, ended⟩, is, rfl⟩ := Option.map_eq_some_iff.mp (Option.mem_toList.mp mem)
      · cases won
      · exact List.mem_append_left _ (Option.mem_toList.mpr is)
    · exact List.mem_append_right _ mem
  have pending : ∀ request, (d.handleArbitrate params score snrDb rmsDbfs canServe now fresh).pending = some request →
      ∀ epoch, request.decision ≠ some (.won epoch) := by
    have handled := @handle_localWake params d score snrDb rmsDbfs canServe now fresh
    intro request is epoch won
    split at handled
    · obtain ⟨base, own, handled⟩ := handled
      have same := congrArg (fun result => result.2.foldl resolve (some .asked)) handled
      rw [show (d.handleArbitrate params score snrDb rmsDbfs canServe now fresh).pending = _ from same] at is
      cases is
      cases won
    · have same := congrArg (fun result => result.2.foldl resolve (some .asked)) handled
      rw [show (d.handleArbitrate params score snrDb rmsDbfs canServe now fresh).pending = _ from same] at is
      cases is
      cases won
  intro request mem epoch won live
  rcases List.mem_append.mp mem with mem | mem
  · exact absurd won (pending request (Option.mem_toList.mp mem) epoch)
  · have there := earlier mem won
    have kept := @handle_session params d.machine (linked.live there won live) (.localWake score snrDb rmsDbfs canServe now fresh)
      (by simp) (by simp) (by simp)
    rw [show (d.handleArbitrate params score snrDb rmsDbfs canServe now fresh).machine = d.machine from kept]
    exact linked request there epoch won live

theorem step_linked {call : Call} {next : Daemon} (sound : d.Sound) (linked : d.Linked) (meets : d.Meets params call)
    (move : d.step params call = some next) : next.Linked := by
  -- A reply, and a decision that is no win, leave each session as it is.
  have answers {asked : Request} {epoch : String} {answer : Option String} (before : asked.Linked d.machine)
      (won : (asked.answer answer).decision = some (.won epoch)) (live : (asked.answer answer).ended = false) :
      d.machine.holds epoch = true ∧ d.machine.state = if (asked.answer answer).started then .active else .winner :=
    before epoch won live
  cases call with
  | arbitrate => exact Option.some.inj move ▸ handleArbitrate_linked linked _ _ _ _ _ _
  | timeout =>
    obtain ⟨awaits, same⟩ := Option.ite_none_right_eq_some.mp move
    obtain rfl := Option.some.inj same
    intro request mem epoch won live
    rcases List.mem_append.mp mem with mem | mem
    · rw [sound.exists_pending awaits] at mem
      obtain rfl := List.mem_singleton.mp mem
      cases won
    · exact linked request (List.mem_append_right _ mem) epoch won live
  | reply =>
    obtain ⟨-, same⟩ := Option.ite_none_left_eq_some.mp move
    obtain rfl := Option.some.inj same
    intro request mem epoch won live
    rcases List.mem_append.mp mem with mem | mem
    · obtain ⟨before, is, rfl⟩ := Option.map_eq_some_iff.mp (Option.mem_toList.mp mem)
      exact answers (linked before (List.mem_append_left _ (Option.mem_toList.mpr is))) won live
    · exact linked request (List.mem_append_right _ mem) epoch won live
  | replyEarlier index =>
    obtain rfl := Option.some.inj move
    intro request mem epoch won live
    rcases List.mem_append.mp mem with mem | mem
    · exact linked request (List.mem_append_left _ mem) epoch won live
    · rcases mem_modify mem with there | ⟨before, there, rfl⟩
      · exact linked request (List.mem_append_right _ there) epoch won live
      · exact answers (linked before (List.mem_append_right _ there)) won live
  | wake epoch report now =>
    obtain rfl := Option.some.inj move
    exact onMulticastMessage_linked sound linked (by simp) (by simp) (by simp)
  | claim epoch peerId now =>
    obtain rfl := Option.some.inj move
    refine onMulticastMessage_linked sound linked (by simp) (by simp) fun claimed sender at_ same => ?_
    cases same
    exact meets.2
  | heartbeat epoch peerId now =>
    obtain rfl := Option.some.inj move
    exact onMulticastMessage_linked sound linked (by simp) (by simp) (by simp)
  | ended epoch peerId reason now =>
    obtain rfl := Option.some.inj move
    exact onMulticastMessage_linked sound linked (by simp) (by simp) (by simp)
  | sessionStarted epoch now => exact Option.some.inj move ▸ started_linked linked epoch now
  | sessionEnded epoch reason now => exact Option.some.inj move ▸ ended_linked linked epoch reason now
  | timer timer now =>
    obtain ⟨-, same⟩ := Option.ite_none_right_eq_some.mp move
    obtain rfl := Option.some.inj same
    exact dispatch_linked sound linked (by simp) (by simp) (by simp)

theorem linked_of_reachable (reached : Reachable ((daemons params).restrict (Meets params)) d) : d.Sound ∧ d.Linked := by
  refine @Reachable.invariant _ _ _ (fun d => d.Sound ∧ d.Linked) ?_ ?_ _ reached
  · rintro _ rfl
    exact ⟨start_sound, fun _ mem => (nomatch mem)⟩
  · exact fun _ _ _ ⟨sound, linked⟩ move => ⟨step_sound sound move.1 move.2, step_linked sound linked move.1 move.2⟩

end Link

section Service

variable {params : StateMachineParams} {d : Daemon}

theorem step_wins {call : Call} {next : Daemon} {epoch : String} (sound : d.Sound) (move : d.step params call = some next)
    (awaits : d.awaits = true) (won : next.pending.any (·.due = some epoch) = true) :
    next.machine.state = .winner ∧ next.machine.holds epoch = true := by
  have message (sender : String) (event : Event) (won : (d.onMulticastMessage params sender event).pending.any (·.due = some epoch) = true) :
      (d.onMulticastMessage params sender event).machine.state = .winner ∧
        (d.onMulticastMessage params sender event).machine.holds epoch = true := by
    unfold onMulticastMessage at won ⊢
    split at won
    · exact absurd won (by simp [not_due awaits])
    · rename_i foreign
      rw [if_neg foreign]
      exact dispatch_wins sound awaits won
  -- A notice leaves what a request is due.
  have marked {event : Event} (notice : Request → Request) (due : ∀ request, (notice request).due = request.due)
      (won : ((d.dispatch params event).mark notice).pending.any (·.due = some epoch) = true) :
      (d.dispatch params event).machine.state = .winner ∧ (d.dispatch params event).machine.holds epoch = true := by
    refine dispatch_wins sound awaits ?_
    rw [mark] at won
    cases pending : (d.dispatch params event).pending <;> simp_all
  cases call with
  | arbitrate score snrDb rmsDbfs canServe now fresh =>
    obtain rfl := Option.some.inj move
    have handled := @handle_localWake params d score snrDb rmsDbfs canServe now fresh
    split at handled
    · obtain ⟨base, own, handled⟩ := handled
      have pending := congrArg (fun result => result.2.foldl resolve (some .asked)) handled
      rw [show (d.handleArbitrate params score snrDb rmsDbfs canServe now fresh).pending = _ from pending] at won
      cases won
    · have pending := congrArg (fun result => result.2.foldl resolve (some .asked)) handled
      rw [show (d.handleArbitrate params score snrDb rmsDbfs canServe now fresh).pending = _ from pending] at won
      cases won
  | timeout =>
    obtain ⟨-, same⟩ := Option.ite_none_right_eq_some.mp move
    obtain rfl := Option.some.inj same
    rw [sound.exists_pending awaits] at won
    cases won
  | reply =>
    obtain ⟨decided, -⟩ := Option.ite_none_left_eq_some.mp move
    exact absurd awaits decided
  | replyEarlier index =>
    obtain rfl := Option.some.inj move
    exact absurd won (by simp [not_due awaits])
  | wake heard report now =>
    obtain rfl := Option.some.inj move
    exact message _ _ won
  | claim | heartbeat | ended =>
    obtain rfl := Option.some.inj move
    exact message _ _ won
  | sessionStarted named =>
    obtain rfl := Option.some.inj move
    exact marked (.start named) (fun _ => rfl) won
  | sessionEnded named =>
    obtain rfl := Option.some.inj move
    exact marked (.finish named) (fun _ => rfl) won
  | timer =>
    obtain ⟨-, same⟩ := Option.ite_none_right_eq_some.mp move
    obtain rfl := Option.some.inj same
    exact dispatch_wins sound awaits won

-- The reply names the epoch that the machine holds, so a notice that names it finds the session.
theorem step_serves {call : Call} {next : Daemon} (sound : d.Sound) (linked : d.Linked) (meets : d.Meets params call)
    (move : d.step params call = some next) : d.Serves call next := by
  refine ⟨fun epoch awaits won => step_wins sound move awaits won, ?_, ?_⟩
  · rintro request mem epoch reply now won answered unstarted live rfl
    obtain rfl := (sound.named request mem epoch won).2 reply answered
    obtain ⟨held, state⟩ := linked request mem reply won live
    rw [unstarted, if_neg (by simp)] at state
    obtain rfl := Option.some.inj move
    have started := @handle_started params d.machine reply state held now
    exact ⟨congrArg PeeringStateMachine.state started, by
      rw [show ((d.dispatch params (.voiceSessionStarted reply now)).mark (.start reply)).machine = _ from started]
      exact held⟩
  · rintro request mem epoch reply reason now won answered live rfl
    obtain rfl := (sound.named request mem epoch won).2 reply answered
    obtain ⟨held, state⟩ := linked request mem reply won live
    cases started : request.started with
    | false =>
      rw [started, if_neg (by simp)] at state
      exact absurd ⟨state, held⟩ meets.2
    | true =>
      rw [started, if_pos rfl] at state
      obtain rfl := Option.some.inj move
      exact handle_ended state held reason now

end Service

end Daemon

/-- In every run in which no ranking raises and no heartbeat timeout fires too early for the code, the timers are armed. Where
besides the sessions are kept, the reply to a request that is won names the epoch that the machine holds, and each notice that names it
is heard. -/
theorem no_peer_left_deaf (params : StateMachineParams) :
    (∀ d, Reachable ((Daemon.daemons params).restrict (Daemon.Rings params)) d → d.Timed) ∧
      ∀ d, Reachable ((Daemon.daemons params).restrict (Daemon.Meets params)) d →
        (∀ request ∈ d.requests, request.Named d.pendingEpoch ∧ request.Linked d.machine) ∧
        ∀ call next, d.Meets params call → d.step params call = some next → d.Serves call next := by
  refine ⟨fun d reached => (Daemon.armed_of_reachable reached).timed, fun d reached => ?_⟩
  obtain ⟨sound, linked⟩ := Daemon.linked_of_reachable reached
  exact ⟨fun request mem => ⟨sound.named request mem, linked request mem⟩,
    fun call next meets move => Daemon.step_serves sound linked meets move⟩

section Runs

def wakes (fresh : String) : Call := .arbitrate (double (.finite (9 / 10))) none none true 0 fresh

def kitchen (score snrDb : PyFloat) : WakeReport := ⟨"kitchen", .clamp (double score), some (double snrDb), none, false, true⟩

-- A peer that wins alone is answered with the epoch that it holds, and the notice of the start makes it active.
theorem winner_becomes_active :
    ∃ d, Reachable ((Daemon.daemons hall).restrict (Daemon.Meets hall)) d ∧
      d.pending = some ⟨some (.won "1b"), some "1b", false, false⟩ ∧
      ∀ next, d.step hall (.sessionStarted "1b" (1 / 2)) = some next → next.machine.state = .active := by
  obtain ⟨d, reached, pending⟩ := @restricted_observed _ _ (· = Daemon.start) (Daemon.step hall) (Daemon.Meets hall) _ _
    [wakes "1b", .timer .arbWindow (1 / 4), .reply] _
    (fun d => d.pending) (some ⟨some (.won "1b"), some "1b", false, false⟩) rfl (by decide +kernel)
  have mem : ⟨some (.won "1b"), some "1b", false, false⟩ ∈ d.requests := List.mem_append_left _ (Option.mem_toList.mpr pending)
  refine ⟨d, reached, pending, fun next move => ?_⟩
  have meets : Daemon.Meets hall d (.sessionStarted "1b" (1 / 2)) := ⟨trivial, trivial⟩
  exact (((no_peer_left_deaf hall).2 d reached).2 _ next meets move).starts _ mem "1b" "1b" (1 / 2) rfl rfl rfl rfl rfl |>.1

/-- A WAKE with a smaller epoch comes between the wake and the win. The reply names the old epoch, and neither notice that names
it finds the winner. A session that ends before it has started leaves the winner as it is, with the right epoch too. A CLAIM of
another peer takes the winner's session away, and the notice of its start finds none. -/
theorem winner_left_deaf :
    (∃ d, Reachable (Daemon.daemons hall) d ∧ d.pending = some ⟨some (.won "1b"), some "9c", false, false⟩ ∧ d.machine.state = .winner ∧
      ((d.step hall (.sessionStarted "9c" (1 / 2))).bind (·.step hall (.sessionEnded "9c" "ended" 2))).map (·.machine.state) =
        some .winner) ∧
    (∃ d, Reachable (Daemon.daemons hall) d ∧ d.pending = some ⟨some (.won "1b"), some "1b", false, false⟩ ∧ d.machine.state = .winner ∧
      (d.step hall (.sessionEnded "1b" "acquire_error" 2)).map (·.machine.state) = some .winner ∧
      ((d.step hall (.claim "9c" "kitchen" (1 / 2))).bind (·.step hall (.sessionStarted "1b" 1))).map (·.machine.state) =
        some .suppressed) ∧
    -- A ranking that raises leaves the bid without a timer, and a due time that was rounded down the suppression.
    (∃ d, Reachable (Daemon.daemons hall) d ∧ d.machine.state = .candidate ∧ d.clocked.timers .arbWindow = none) ∧
    ∃ d, Reachable (Daemon.daemons hall) d ∧ d.machine.state = .suppressed ∧ d.clocked.timers .heartTimeout = none := by
  refine ⟨?_, ?_, ?_, ?_⟩
  · obtain ⟨d, reached, shown⟩ := @reachable_observed _ _ (· = Daemon.start) (Daemon.step hall) _
      [wakes "9c", .wake "1b" (kitchen (.finite (3 / 5)) (.finite 10)) (1 / 8), .timer .arbWindow (1 / 4), .reply] _
      (fun d => (d.pending, d.machine.state,
        ((d.step hall (.sessionStarted "9c" (1 / 2))).bind (·.step hall (.sessionEnded "9c" "ended" 2))).map (·.machine.state)))
      (some ⟨some (.won "1b"), some "9c", false, false⟩, .winner, some .winner) rfl (by decide +kernel)
    simp only [Prod.mk.injEq] at shown
    exact ⟨d, reached, shown⟩
  · obtain ⟨d, reached, shown⟩ := @reachable_observed _ _ (· = Daemon.start) (Daemon.step hall) _
      [wakes "1b", .timer .arbWindow (1 / 4), .reply] _
      (fun d => (d.pending, d.machine.state, (d.step hall (.sessionEnded "1b" "acquire_error" 2)).map (·.machine.state),
        ((d.step hall (.claim "9c" "kitchen" (1 / 2))).bind (·.step hall (.sessionStarted "1b" 1))).map (·.machine.state)))
      (some ⟨some (.won "1b"), some "1b", false, false⟩, .winner, some .winner, some .suppressed) rfl (by decide +kernel)
    simp only [Prod.mk.injEq] at shown
    exact ⟨d, reached, shown⟩
  · obtain ⟨d, reached, shown⟩ := @reachable_observed _ _ (· = Daemon.start) (Daemon.step hall) _
      [wakes "9c", .wake "1b" (kitchen (.finite (9 / 10)) .nan) (1 / 8), .timer .arbWindow (1 / 4)] _
      (fun d => (d.machine.state, d.clocked.timers .arbWindow)) (.candidate, none) rfl (by decide +kernel)
    simp only [Prod.mk.injEq] at shown
    exact ⟨d, reached, shown⟩
  · obtain ⟨d, reached, shown⟩ := @reachable_observed _ _ (· = Daemon.start) (Daemon.step hall) _
      [.claim "9c" "kitchen" (1023 + 1 / 2 ^ 43), .timer .heartTimeout 1025] _
      (fun d => (d.machine.state, d.clocked.timers .heartTimeout)) (.suppressed, none) rfl (by decide +kernel)
    simp only [Prod.mk.injEq] at shown
    exact ⟨d, reached, shown⟩

end Runs

end Jts.Peering
