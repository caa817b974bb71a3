import Jts.Peering.Clocked

set_option autoImplicit false

namespace Jts.Peering

open Jts.Shared.Transition PeeringStateMachine
open Shared.PythonJson.PyFloat (Double)

inductive Decision
  -- A win by StartSession, with its epoch.
  | won (epoch : String)
  | lost
  -- A win that nothing was arbitrated for.
  | failedOpen
deriving DecidableEq

/-- An ARBITRATE, its decision, and the epoch that its reply has named. -/
structure Request where
  decision : Option Decision
  answered : Option String
  -- Not the daemon's: whether notices have told of the start and of the end of the session that it has won.
  started : Bool
  ended : Bool
deriving DecidableEq

/-- The daemon's own state. Only the request of the last ARBITRATE is pending. -/
structure Daemon where
  clocked : Clocked
  pending : Option Request
  earlier : List Request
  pendingEpoch : Option String
  -- Not the daemon's: whether a WAKE has taken the epoch of the last bid away.
  overtaken : Bool

inductive Call
  | arbitrate (score : Double) (snrDb rmsDbfs : Option Double) (canServe : Bool) (now : Time) (fresh : String)
  | timeout
  | reply
  | replyEarlier (index : Nat)
  | wake (epoch : String) (report : WakeReport) (now : Time)
  | claim (epoch peerId : String) (now : Time)
  | heartbeat (epoch peerId : String) (now : Time)
  | ended (epoch peerId reason : String) (now : Time)
  | sessionStarted (epoch : String) (now : Time)
  | sessionEnded (epoch reason : String) (now : Time)
  | timer (timer : TimerId) (now : Time)

namespace Request

def asked : Request := ⟨none, none, false, false⟩

def undecided (request : Request) : Bool := request.decision.isNone

def decide (decision : Decision) (request : Request) : Request :=
  { request with decision := request.decision.or (some decision) }

-- The reply names the epoch that the daemon keeps when it is sent.
def answer (epoch : Option String) (request : Request) : Request :=
  { request with answered := request.answered.or (some (epoch.getD "")) }

-- The voice names an epoch when its session starts, and when it ends.
def start (epoch : String) (request : Request) : Request :=
  { request with started := request.started || request.decision = some (.won epoch) }

def finish (epoch : String) (request : Request) : Request :=
  { request with ended := request.ended || request.decision = some (.won epoch) }

/-- A request that is won, and not answered yet. -/
def due (request : Request) : Option String :=
  match request.decision, request.answered with
  | some (.won epoch), none => some epoch
  | _, _ => none

/-- The reply to a request that is won names its epoch. -/
def Named (pendingEpoch : Option String) (request : Request) : Prop :=
  ∀ epoch, request.decision = some (.won epoch) →
    (request.answered = none → pendingEpoch = some epoch) ∧ ∀ reply, request.answered = some reply → reply = epoch

theorem Named.answer {pendingEpoch : Option String} {request : Request} (named : request.Named pendingEpoch) :
    (request.answer pendingEpoch).Named pendingEpoch := by
  intro epoch won
  obtain ⟨due, done⟩ := named epoch won
  refine ⟨fun none_ => ?_, fun reply same => ?_⟩
  · cases answered : request.answered <;> simp [Request.answer, answered] at none_
  · cases answered : request.answered with
    | none =>
      rw [Request.answer, answered, due answered] at same
      exact (Option.some.inj same).symm
    | some already =>
      rw [Request.answer, answered] at same
      exact done reply (answered.trans same)

-- A decision that is no win names nothing.
theorem Named.decide {pendingEpoch : Option String} {request : Request} (named : request.Named pendingEpoch)
    {decision : Decision} (names : ∀ epoch, decision = .won epoch → request.answered = none ∧ pendingEpoch = some epoch) :
    (request.decide decision).Named pendingEpoch := by
  intro epoch won
  cases before : request.decision with
  | none =>
    rw [Request.decide, before] at won
    obtain ⟨unanswered, same⟩ := names epoch (Option.some.inj won)
    exact ⟨fun _ => same, fun reply answered => absurd (unanswered.symm.trans answered) (by simp)⟩
  | some already =>
    rw [Request.decide, before] at won
    exact named epoch (before.trans won)

end Request

namespace Daemon

def start : Daemon := ⟨.start, none, [], none, false⟩

variable (params : StateMachineParams) (daemon : Daemon)

def machine : PeeringStateMachine := daemon.clocked.machine

def awaits : Bool := daemon.pending.any (·.undecided)

def requests : List Request := daemon.pending.toList ++ daemon.earlier

def resolve (pending : Option Request) : Action → Option Request
  | .startSession epoch => pending.map (.decide (.won epoch))
  | .standDown => pending.map (.decide .lost)
  | _ => pending

def dispatch (event : Event) : Daemon :=
  { daemon with
    clocked := daemon.clocked.handle params event
    pending := (daemon.machine.handle params event).2.foldl resolve daemon.pending }

def mark (notice : Request → Request) : Daemon :=
  { daemon with pending := daemon.pending.map notice, earlier := daemon.earlier.map notice }

/-- A wake that begins an arbitration. -/
def bids (score : Double) : Bool :=
  match daemon.machine.state with
  | .idle => true
  | .suppressed => !score.val.lt params.breakThreshold.val
  | _ => false

-- An ARBITRATE that is still pending is answered, and the epoch is what the machine then has.
def handleArbitrate (score : Double) (snrDb rmsDbfs : Option Double) (canServe : Bool) (now : Time) (fresh : String) : Daemon :=
  let asked : Daemon :=
    { daemon with pending := some .asked, earlier := (daemon.pending.map (.decide .failedOpen)).toList ++ daemon.earlier }
  let dispatched := asked.dispatch params (.localWake score snrDb rmsDbfs canServe now fresh)
  { dispatched with
    pendingEpoch := dispatched.machine.currentEpoch
    overtaken := daemon.overtaken && !daemon.bids params score }

/-- A smaller epoch takes the place of the one that is arbitrated. -/
def overtakes (epoch : String) : Bool :=
  daemon.machine.state = .candidate && daemon.machine.epoch.any (epoch < ·.epoch)

def onMulticastMessage (sender : String) (event : Event) : Daemon :=
  if sender = params.peerId then daemon else daemon.dispatch params event

def onWake (epoch : String) (report : WakeReport) (now : Time) : Daemon :=
  { onMulticastMessage params daemon report.peerId (.peerWake epoch report now) with
    overtaken := daemon.overtaken || (report.peerId ≠ params.peerId && daemon.overtakes epoch) }

def step (call : Call) : Option Daemon :=
  match call with
  | .arbitrate score snrDb rmsDbfs canServe now fresh =>
      some (daemon.handleArbitrate params score snrDb rmsDbfs canServe now fresh)
  | .timeout => if daemon.awaits then some { daemon with pending := daemon.pending.map (.decide .failedOpen) } else none
  | .reply => if daemon.awaits then none else some { daemon with pending := daemon.pending.map (.answer daemon.pendingEpoch) }
  | .replyEarlier index => some { daemon with earlier := daemon.earlier.modify index (.answer daemon.pendingEpoch) }
  | .wake epoch report now => some (daemon.onWake params epoch report now)
  | .claim epoch peerId now => some (daemon.onMulticastMessage params peerId (.peerClaim epoch peerId now))
  | .heartbeat epoch peerId now => some (daemon.onMulticastMessage params peerId (.peerHeartbeat epoch peerId now))
  | .ended epoch peerId reason now => some (daemon.onMulticastMessage params peerId (.peerEnd epoch peerId reason now))
  | .sessionStarted epoch now => some ((daemon.dispatch params (.voiceSessionStarted epoch now)).mark (.start epoch))
  | .sessionEnded epoch reason now => some ((daemon.dispatch params (.voiceSessionEnded epoch reason now)).mark (.finish epoch))
  | .timer timer now =>
      if (daemon.clocked.timers timer).any (· ≤ now) then some (daemon.dispatch params (.timerFired timer now)) else none

/-- The daemon and its machine, with its calls in any order. -/
def daemons : System Daemon Call := ofFn (· = start) (step params)

/-- The peer ranks first among the reports that it has. -/
def first : Bool := daemon.machine.epoch.any fun held => rank held.reports = .ok params.peerId

/-- No window closes over reports whose ranking raises, and no heartbeat timeout fires before its time as the code has it. -/
def Rings : Call → Prop
  | .timer timer now => daemon.clocked.Fires params (.timerFired timer now)
  | _ => True

instance (call : Call) : Decidable (daemon.Rings params call) := by
  unfold Rings
  split <;> infer_instance

/-- A bid whose epoch was taken away does not win. A request that is won is answered before an ARBITRATE changes the epoch.
No other peer claims a session that has been won, and none ends, before it has started. -/
def Keeps : Call → Prop
  | .arbitrate score _ _ _ _ _ => ∀ request ∈ daemon.requests, ∀ epoch ∈ request.due,
      daemon.bids params score = false ∧ daemon.machine.currentEpoch = some epoch
  | .timer .arbWindow _ => ¬ (daemon.awaits = true ∧ daemon.overtaken = true ∧ daemon.first params = true)
  | .claim _ peerId _ => ¬ (daemon.machine.state = .winner ∧ peerId ≠ params.peerId)
  | .sessionEnded epoch _ _ => ¬ (daemon.machine.state = .winner ∧ daemon.machine.holds epoch = true)
  | _ => True

instance (call : Call) : Decidable (daemon.Keeps params call) := by
  unfold Keeps
  split <;> infer_instance

def Meets (call : Call) : Prop := daemon.Rings params call ∧ daemon.Keeps params call

instance (call : Call) : Decidable (daemon.Meets params call) := inferInstanceAs (Decidable (_ ∧ _))

/-- The timers that the states need are armed. -/
structure Armed : Prop where
  kept : daemon.clocked.Kept
  rings : daemon.clocked.Rings
  waits : daemon.clocked.Waits params

structure Sound : Prop where
  kept : daemon.clocked.Kept
  bidding : daemon.awaits = true → daemon.machine.state = .candidate ∧
    (daemon.overtaken = false → ∃ held, daemon.machine.epoch = some held ∧ daemon.pendingEpoch = some held.epoch)
  settled : ∀ request ∈ daemon.earlier, request.undecided = false
  unanswered : ∀ request ∈ daemon.requests, request.undecided = true → request = .asked
  named : ∀ request ∈ daemon.requests, request.Named daemon.pendingEpoch

section Proofs

variable {params : StateMachineParams} {d : Daemon} {event : Event}

theorem foldl_resolve (pending : Option Request) (actions : List Action) (decided : pending.any (·.undecided) = false) :
    actions.foldl resolve pending = pending := by
  induction actions with
  | nil => rfl
  | cons action actions ih =>
    have same : resolve pending action = pending := by
      cases pending with
      | none => cases action <;> rfl
      | some request =>
        obtain ⟨decision, answered, started, ended⟩ := request
        cases decision with
        | none => simp [Request.undecided] at decided
        | some => cases action <;> rfl
    rw [List.foldl_cons, same, ih]

-- What comes after a decision changes nothing.
theorem foldl_resolve_lost (pending : Option Request) (actions : List Action) :
    (.standDown :: actions).foldl resolve pending = pending.map (.decide .lost) := by
  rw [List.foldl_cons]
  refine foldl_resolve _ actions ?_
  rcases pending with _ | ⟨_ | decision, answered, started, ended⟩ <;> rfl

/-- What an event does to a bid: the bid goes on, perhaps with a WAKE more, it is lost, or its window closes and it wins. Where the
ranking raises the bid goes on. -/
theorem handle_bid {machine : PeeringStateMachine} {held : Epoch} (candidate : machine.state = .candidate)
    (epoch : machine.epoch = some held) (some_ : held.reports ≠ []) (event : Event) :
    machine.handle params event = (machine, []) ∨
    (∃ heard report now, event = .peerWake heard report now ∧
      machine.handle params event = ({ machine with epoch := some (Epoch.hear held heard report) }, [])) ∨
    (∃ actions, (machine.handle params event).2 = .standDown :: actions) ∨
    ∃ now, event = .timerFired .arbWindow now ∧ rank held.reports = .ok params.peerId ∧
      machine.handle params event = ({ machine with state := .winner }, [.broadcastClaim held.epoch, .startSession held.epoch]) := by
  cases event with
  | localWake => exact .inr (.inr (.inl ⟨[], by simp [PeeringStateMachine.handle, onLocalWake, candidate]⟩))
  | peerWake heard report now =>
    exact .inr (.inl ⟨heard, report, now, rfl, by simp [PeeringStateMachine.handle, onPeerWake, candidate, epoch]⟩)
  | peerClaim claimed peerId now =>
    by_cases own : peerId = params.peerId
    · exact .inl (by simp [PeeringStateMachine.handle, onPeerClaim, own])
    · by_cases same : machine.holds claimed = true
      · exact .inr (.inr (.inl ⟨_, by simp [PeeringStateMachine.handle, onPeerClaim, own, candidate, same]; rfl⟩))
      · exact .inl (by simp [PeeringStateMachine.handle, onPeerClaim, own, candidate, same])
  | peerHeartbeat => exact .inl (by simp [PeeringStateMachine.handle, onPeerHeartbeat, candidate])
  | peerEnd => exact .inl (by simp [PeeringStateMachine.handle, onPeerEnd, candidate])
  | timerFired timer now =>
    cases timer with
    | arbWindow =>
      cases ranks : rank held.reports with
      | error error => exact .inl (by simp [PeeringStateMachine.handle, onTimer, closeArbitration, candidate, epoch, some_, ranks])
      | ok winner =>
        by_cases first : winner = params.peerId
        · refine .inr (.inr (.inr ⟨now, rfl, congrArg Except.ok first, ?_⟩))
          simp [PeeringStateMachine.handle, onTimer, closeArbitration, candidate, epoch, some_, ranks, first]
        · refine .inr (.inr (.inl ⟨[.scheduleTimer .heartTimeout (now.plus params.heartbeatTimeoutSec)], ?_⟩))
          simp [PeeringStateMachine.handle, onTimer, closeArbitration, candidate, epoch, some_, ranks, first, suppress]
    | heartSend => exact .inl (by simp [PeeringStateMachine.handle, onTimer, sendHeartbeatAndReschedule, candidate])
    | heartTimeout => exact .inl (by simp [PeeringStateMachine.handle, onTimer, onHeartbeatTimeout, candidate])
  | voiceSessionStarted => exact .inl (by simp [PeeringStateMachine.handle, onVoiceStarted, candidate])
  | voiceSessionEnded => exact .inl (by simp [PeeringStateMachine.handle, onVoiceEnded, candidate])

-- A WAKE keeps the name of the epoch, unless it overtakes it.
theorem hear_epoch {held : Epoch} {heard : String} (report : WakeReport) (later : ¬ heard < held.epoch) :
    (Epoch.hear held heard report).epoch = held.epoch := by
  unfold Epoch.hear
  split
  · rfl
  · rfl

theorem undecided_decide (pending : Option Request) (decision : Decision) :
    (pending.map (Request.decide decision)).any Request.undecided = false := by
  rcases pending with _ | ⟨_ | already, answered, started, ended⟩ <;> rfl

-- A decision of the pending request leaves what is to be said of the others.
theorem Sound.decided {next : Daemon} {decision : Decision} (sound : d.Sound) (kept : next.clocked.Kept)
    (pending : next.pending = d.pending.map (.decide decision))
    (earlier : next.earlier = d.earlier) (pendingEpoch : next.pendingEpoch = d.pendingEpoch)
    (names : d.awaits = true → ∀ epoch, decision = .won epoch → d.pendingEpoch = some epoch) : next.Sound := by
  have undecided : next.awaits = false := by rw [awaits, pending]; exact undecided_decide _ _
  have mem_cases : ∀ request ∈ next.requests, request ∈ d.requests ∨ ∃ before ∈ d.pending, request = before.decide decision := by
    intro request mem
    rw [requests, pending, earlier] at mem
    rcases List.mem_append.mp mem with mem | mem
    · obtain ⟨before, is, rfl⟩ := Option.map_eq_some_iff.mp (Option.mem_toList.mp mem)
      exact .inr ⟨before, is, rfl⟩
    · exact .inl (List.mem_append_right _ mem)
  refine ⟨kept, fun awaits => absurd (undecided.symm.trans awaits) (by decide), earlier ▸ sound.settled,
    fun request mem open_ => ?_, fun request mem => ?_⟩
  · rcases mem_cases request mem with before | ⟨before, is, rfl⟩
    · exact sound.unanswered request before open_
    · cases decided : before.decision <;> simp [Request.decide, Request.undecided, decided] at open_
  · rw [pendingEpoch]
    rcases mem_cases request mem with before | ⟨before, is, rfl⟩
    · exact sound.named request before
    · have there : before ∈ d.requests := List.mem_append_left _ (Option.mem_toList.mpr is)
      cases open_ : before.undecided with
      | true =>
        have awaits : d.awaits = true := by rw [Daemon.awaits, is, Option.any_some, open_]
        exact (sound.named before there).decide fun epoch won => ⟨congrArg Request.answered (sound.unanswered before there open_), names awaits epoch won⟩
      | false =>
        have same : before.decide decision = before := by
          obtain ⟨_ | already, answered, started, ended⟩ := before
          · cases open_
          · rfl
        rw [same]
        exact sound.named before there

-- Where the requests are as they were, only the bid has to be looked at.
theorem Sound.carried {next : Daemon} (sound : d.Sound) (kept : next.clocked.Kept) (pending : next.pending = d.pending)
    (earlier : next.earlier = d.earlier) (pendingEpoch : next.pendingEpoch = d.pendingEpoch)
    (bidding : d.awaits = true → next.machine.state = .candidate ∧
      (next.overtaken = false → ∃ held, next.machine.epoch = some held ∧ d.pendingEpoch = some held.epoch)) : next.Sound := by
  have same : next.requests = d.requests := by rw [requests, pending, earlier, requests]
  refine ⟨kept, fun awaits => ?_, earlier ▸ sound.settled, same ▸ sound.unanswered, ?_⟩
  · rw [Daemon.awaits, pending] at awaits
    rw [pendingEpoch]
    exact bidding awaits
  · rw [same, pendingEpoch]
    exact sound.named

/-- The daemon keeps what it promises while its calls meet the condition. -/
theorem dispatch_sound (sound : d.Sound)
    (keeps : ∀ heard report now, event = .peerWake heard report now → d.overtaken = false → d.overtakes heard = false)
    (meets : ∀ now, event = .timerFired .arbWindow now → ¬ (d.awaits = true ∧ d.overtaken = true ∧ d.first params = true)) :
    (d.dispatch params event).Sound := by
  have kept : (d.dispatch params event).clocked.Kept := Clocked.handle_kept sound.kept event
  by_cases awaits : d.awaits = true
  · obtain ⟨candidate, named⟩ := sound.bidding awaits
    have before := sound.kept
    rw [Clocked.Kept, show d.clocked.machine.state = _ from candidate] at before
    obtain ⟨held, epoch, some_⟩ := before
    replace epoch : d.machine.epoch = some held := epoch
    have cases_ := @handle_bid params _ _ candidate epoch some_ event
    rcases cases_ with same | ⟨heard, report, now, rfl, same⟩ | ⟨actions, same⟩ | ⟨now, rfl, wins, same⟩
    · have machine : (d.dispatch params event).machine = d.machine := congrArg Prod.fst same
      have pending : (d.dispatch params event).pending = d.pending := by rw [dispatch, same]; rfl
      refine sound.carried kept pending rfl rfl fun _ => ?_
      rw [machine]
      exact sound.bidding awaits
    · have machine : (d.dispatch params (.peerWake heard report now)).machine =
          { d.machine with epoch := some (Epoch.hear held heard report) } := congrArg Prod.fst same
      have pending : (d.dispatch params (.peerWake heard report now)).pending = d.pending := by rw [dispatch, same]; rfl
      refine sound.carried kept pending rfl rfl fun _ => ?_
      rw [machine]
      refine ⟨candidate, fun still => ⟨_, rfl, ?_⟩⟩
      obtain ⟨held', epoch', same'⟩ := named still
      obtain rfl := Option.some.inj (epoch.symm.trans epoch')
      have later : ¬ heard < held.epoch := by simpa [overtakes, candidate, epoch] using keeps heard report now rfl still
      rw [hear_epoch report later]
      exact same'
    · have pending : (d.dispatch params event).pending = d.pending.map (.decide .lost) := by
        rw [dispatch, same]
        exact foldl_resolve_lost _ _
      exact sound.decided kept pending rfl rfl fun _ _ won => by cases won
    · have pending : (d.dispatch params (.timerFired .arbWindow now)).pending = d.pending.map (.decide (.won held.epoch)) := by
        rw [dispatch, same]
        rfl
      refine sound.decided kept pending rfl rfl fun awaits epoch' won => ?_
      have still : d.overtaken = false := by
        by_contra taken
        refine meets now rfl ⟨awaits, by simpa using taken, ?_⟩
        simp [first, epoch, wins]
      obtain ⟨held', same', bid⟩ := named still
      obtain rfl := Option.some.inj (epoch.symm.trans same')
      exact (Decision.won.inj won) ▸ bid
  · have same : (d.dispatch params event).pending = d.pending := foldl_resolve _ _ (by simpa [Daemon.awaits] using awaits)
    exact sound.carried kept same rfl rfl fun awaits' => absurd awaits' awaits

-- A wake either begins an arbitration or stands down.
theorem handle_localWake (d : Daemon) (score : Double) (snrDb rmsDbfs : Option Double) (canServe : Bool) (now : Time) (fresh : String) :
    if d.bids params score then
      ∃ base : PeeringStateMachine, ∃ own : WakeReport,
        d.machine.handle params (.localWake score snrDb rmsDbfs canServe now fresh) =
          ({ base with state := .candidate, epoch := some ⟨fresh, [own]⟩ },
            [.broadcastWake fresh own, .scheduleTimer .arbWindow (now.plus params.arbWindowSec)])
    else d.machine.handle params (.localWake score snrDb rmsDbfs canServe now fresh) = (d.machine, [.standDown]) := by
  cases state : d.machine.state with
  | idle =>
    simp only [bids, state, if_true, PeeringStateMachine.handle, onLocalWake, beginCandidate]
    exact ⟨_, _, rfl⟩
  | suppressed =>
    cases weak : score.val.lt params.breakThreshold.val with
    | false =>
      simp only [bids, state, weak, Bool.not_false, if_true, PeeringStateMachine.handle, onLocalWake, beginCandidate,
        Bool.false_eq_true, if_false]
      exact ⟨_, _, rfl⟩
    | true => simp [bids, state, weak, PeeringStateMachine.handle, onLocalWake]
  | _ => simp [bids, state, PeeringStateMachine.handle, onLocalWake]

theorem handleArbitrate_sound (sound : d.Sound) {score : Double} {snrDb rmsDbfs : Option Double} {canServe : Bool} {now : Time}
    {fresh : String} (meets : d.Meets params (.arbitrate score snrDb rmsDbfs canServe now fresh)) :
    (d.handleArbitrate params score snrDb rmsDbfs canServe now fresh).Sound := by
  have kept := @Clocked.handle_kept params _ sound.kept (.localWake score snrDb rmsDbfs canServe now fresh)
  have handled := @handle_localWake params d score snrDb rmsDbfs canServe now fresh
  have before : ∀ request ∈ (d.pending.map (.decide .failedOpen)).toList ++ d.earlier,
      request.undecided = false ∧ (request ∈ d.requests ∨ ∀ epoch, request.decision ≠ some (.won epoch)) := by
    intro request mem
    rcases List.mem_append.mp mem with mem | mem
    · obtain ⟨asked, is, rfl⟩ := Option.map_eq_some_iff.mp (Option.mem_toList.mp mem)
      obtain ⟨_ | decision, answered, started, ended⟩ := asked
      · exact ⟨rfl, .inr fun epoch won => by cases won⟩
      · exact ⟨rfl, .inl (List.mem_append_left _ (Option.mem_toList.mpr is))⟩
    · exact ⟨sound.settled request mem, .inl (List.mem_append_right _ mem)⟩
  have settled : ∀ request ∈ (d.handleArbitrate params score snrDb rmsDbfs canServe now fresh).earlier, request.undecided = false :=
    fun request mem => (before request mem).1
  have named : ∀ request ∈ (d.handleArbitrate params score snrDb rmsDbfs canServe now fresh).earlier,
      request.Named (d.handleArbitrate params score snrDb rmsDbfs canServe now fresh).pendingEpoch := by
    rintro ⟨decision, answered, started, ended⟩ mem epoch rfl
    have there := (before _ mem).2.resolve_right fun never => never epoch rfl
    refine ⟨?_, (sound.named _ there epoch rfl).2⟩
    rintro rfl
    obtain ⟨weak, current⟩ := meets.2 _ there epoch rfl
    rw [if_neg (by simp [weak])] at handled
    exact (congrArg (fun result => result.1.currentEpoch) handled).trans current
  -- What is to be said of the requests: the new one names no win, and the others are settled.
  have told : ∀ asked : Request, (d.handleArbitrate params score snrDb rmsDbfs canServe now fresh).pending = some asked →
      (asked.undecided = true → asked = .asked) → (∀ epoch, asked.decision ≠ some (.won epoch)) →
      ∀ request ∈ (d.handleArbitrate params score snrDb rmsDbfs canServe now fresh).requests,
        (request.undecided = true → request = .asked) ∧
          request.Named (d.handleArbitrate params score snrDb rmsDbfs canServe now fresh).pendingEpoch := by
    intro asked pending open_ never request mem
    rw [requests, pending] at mem
    rcases List.mem_cons.mp mem with rfl | mem
    · exact ⟨open_, fun epoch won => absurd won (never epoch)⟩
    · exact ⟨fun undecided => absurd (settled request mem) (by simp [undecided]), named request mem⟩
  by_cases bids : d.bids params score = true
  · rw [if_pos bids] at handled
    obtain ⟨base, own, handled⟩ := handled
    have machine : (d.handleArbitrate params score snrDb rmsDbfs canServe now fresh).machine =
        { base with state := .candidate, epoch := some ⟨fresh, [own]⟩ } := congrArg Prod.fst handled
    have pending : (d.handleArbitrate params score snrDb rmsDbfs canServe now fresh).pending = some .asked :=
      congrArg (fun result => result.2.foldl resolve (some .asked)) handled
    have told := told .asked pending (fun _ => rfl) fun _ => by simp [Request.asked]
    refine ⟨kept, fun _ => ?_, settled, fun request mem => (told request mem).1, fun request mem => (told request mem).2⟩
    rw [machine]
    exact ⟨rfl, fun _ => ⟨_, rfl, congrArg currentEpoch machine⟩⟩
  · rw [if_neg bids] at handled
    have pending : (d.handleArbitrate params score snrDb rmsDbfs canServe now fresh).pending = some ⟨some .lost, none, false, false⟩ :=
      congrArg (fun result => result.2.foldl resolve (some .asked)) handled
    have decided : (d.handleArbitrate params score snrDb rmsDbfs canServe now fresh).awaits = false := by
      rw [awaits, pending]
      rfl
    have told := told _ pending (fun undecided => by cases undecided) fun _ => by simp
    exact ⟨kept, fun awaits => absurd (decided.symm.trans awaits) (by decide), settled, fun request mem => (told request mem).1,
      fun request mem => (told request mem).2⟩

theorem mem_modify {requests : List Request} {index : Nat} {change : Request → Request} {request : Request}
    (mem : request ∈ requests.modify index change) : request ∈ requests ∨ ∃ before ∈ requests, request = change before := by
  induction requests generalizing index with
  | nil => cases index <;> cases mem
  | cons head rest ih =>
    cases index with
    | zero =>
      rcases List.mem_cons.mp mem with rfl | mem
      · exact .inr ⟨head, List.mem_cons_self, rfl⟩
      · exact .inl (List.mem_cons_of_mem _ mem)
    | succ index =>
      rw [List.modify_succ_cons] at mem
      rcases List.mem_cons.mp mem with rfl | mem
      · exact .inl List.mem_cons_self
      · rcases ih mem with there | ⟨before, there, rfl⟩
        · exact .inl (List.mem_cons_of_mem _ there)
        · exact .inr ⟨before, List.mem_cons_of_mem _ there, rfl⟩

-- A reply changes no decision, and it names what it should.
theorem Sound.answered {next : Daemon} (sound : d.Sound) (clocked : next.clocked = d.clocked)
    (pendingEpoch : next.pendingEpoch = d.pendingEpoch) (overtaken : next.overtaken = d.overtaken)
    (pending : next.pending = d.pending ∨ d.awaits = false ∧ next.pending = d.pending.map (.answer d.pendingEpoch))
    (earlier : ∀ request ∈ next.earlier, request ∈ d.earlier ∨ ∃ before ∈ d.earlier, request = before.answer d.pendingEpoch) :
    next.Sound := by
  have mem_cases : ∀ request ∈ next.requests, request ∈ d.requests ∨
      ∃ before ∈ d.requests, before.undecided = false ∧ request = before.answer d.pendingEpoch := by
    intro request mem
    rcases List.mem_append.mp mem with mem | mem
    · rcases pending with same | ⟨decided, same⟩
      · exact .inl (List.mem_append_left _ (same ▸ mem))
      · rw [same] at mem
        obtain ⟨before, is, rfl⟩ := Option.map_eq_some_iff.mp (Option.mem_toList.mp mem)
        refine .inr ⟨before, List.mem_append_left _ (Option.mem_toList.mpr is), ?_, rfl⟩
        simpa [awaits, is] using decided
    · rcases earlier request mem with there | ⟨before, there, rfl⟩
      · exact .inl (List.mem_append_right _ there)
      · exact .inr ⟨before, List.mem_append_right _ there, sound.settled before there, rfl⟩
  refine ⟨clocked ▸ sound.kept, fun awaits' => ?_, fun request mem => ?_, fun request mem undecided => ?_,
    fun request mem => ?_⟩
  · have awaits : d.awaits = true := by
      rcases pending with same | ⟨decided, same⟩
      · rwa [Daemon.awaits, same] at awaits'
      · rw [Daemon.awaits, same] at awaits'
        rw [Daemon.awaits] at decided
        cases before : d.pending <;> simp_all [Request.answer, Request.undecided]
    rw [machine, clocked, overtaken, pendingEpoch]
    exact sound.bidding awaits
  · rcases earlier request mem with there | ⟨before, there, rfl⟩
    · exact sound.settled request there
    · exact sound.settled before there
  · rcases mem_cases request mem with there | ⟨before, there, decided, rfl⟩
    · exact sound.unanswered request there undecided
    · exact absurd (decided.symm.trans undecided) (by decide)
  · rw [pendingEpoch]
    rcases mem_cases request mem with there | ⟨before, there, -, rfl⟩
    · exact sound.named request there
    · exact (sound.named before there).answer

theorem onMulticastMessage_sound (sound : d.Sound) (sender : String)
    (keeps : sender ≠ params.peerId → ∀ heard report now, event = .peerWake heard report now → d.overtaken = false →
      d.overtakes heard = false)
    (meets : ∀ now, event ≠ .timerFired .arbWindow now) : (d.onMulticastMessage params sender event).Sound := by
  unfold onMulticastMessage
  split
  · exact sound
  · rename_i foreign
    exact dispatch_sound sound (keeps foreign) fun now same => absurd same (meets now)

theorem mem_mark {notice : Request → Request} {request : Request} :
    request ∈ (d.mark notice).requests ↔ ∃ before ∈ d.requests, notice before = request := by
  simp only [requests, mark, List.mem_append, Option.mem_toList, Option.map_eq_some_iff, List.mem_map, or_and_right,
    exists_or]

-- A notice changes no decision and no reply.
theorem Sound.marked {notice : Request → Request} (sound : d.Sound) (decision : ∀ request, (notice request).decision = request.decision)
    (answered : ∀ request, (notice request).answered = request.answered) (asked : notice .asked = .asked) : (d.mark notice).Sound := by
  have open_ (request : Request) : (notice request).undecided = request.undecided := by rw [Request.undecided, decision, Request.undecided]
  refine ⟨sound.kept, fun awaits => sound.bidding ?_, ?_, ?_, ?_⟩
  · rw [Daemon.awaits, mark] at awaits
    cases pending : d.pending <;> simp_all [Daemon.awaits]
  · intro request mem
    obtain ⟨before, there, rfl⟩ := List.mem_map.mp mem
    rw [open_]
    exact sound.settled before there
  · intro request mem undecided
    obtain ⟨before, there, rfl⟩ := mem_mark.mp mem
    rw [open_] at undecided
    rw [sound.unanswered before there undecided, asked]
  · intro request mem epoch won
    obtain ⟨before, there, rfl⟩ := mem_mark.mp mem
    rw [decision] at won
    rw [answered]
    exact sound.named before there epoch won

theorem step_sound {call : Call} {next : Daemon} (sound : d.Sound) (meets : d.Meets params call)
    (move : d.step params call = some next) : next.Sound := by
  cases call with
  | arbitrate => exact Option.some.inj move ▸ handleArbitrate_sound sound meets
  | timeout =>
    obtain ⟨-, same⟩ := Option.ite_none_right_eq_some.mp move
    obtain rfl := Option.some.inj same
    exact sound.decided sound.kept rfl rfl rfl fun _ _ won => by cases won
  | reply =>
    obtain ⟨decided, same⟩ := Option.ite_none_left_eq_some.mp move
    obtain rfl := Option.some.inj same
    exact sound.answered rfl rfl rfl (.inr ⟨by simpa using decided, rfl⟩) fun _ mem => .inl mem
  | replyEarlier index =>
    obtain rfl := Option.some.inj move
    exact sound.answered rfl rfl rfl (.inl rfl) fun _ mem => mem_modify mem
  | wake epoch report now =>
    obtain rfl := Option.some.inj move
    let marked : Daemon :=
      { d with overtaken := d.overtaken || (report.peerId ≠ params.peerId && d.overtakes epoch) }
    have same : d.onWake params epoch report now = marked.onMulticastMessage params report.peerId (.peerWake epoch report now) := by
      unfold onWake onMulticastMessage
      split <;> rfl
    have sound' : marked.Sound :=
      { sound with bidding := fun awaits => (sound.bidding awaits).imp_right fun bid free => bid (Bool.or_eq_false_iff.mp free).1 }
    rw [same]
    refine onMulticastMessage_sound sound' _ (fun foreign heard report' now' is free => ?_) (by simp)
    cases is
    have still : d.overtakes epoch = false := by simpa [foreign] using (Bool.or_eq_false_iff.mp free).2
    exact still
  | claim epoch peerId now =>
    obtain rfl := Option.some.inj move
    exact onMulticastMessage_sound sound peerId (by simp) (by simp)
  | heartbeat epoch peerId now =>
    obtain rfl := Option.some.inj move
    exact onMulticastMessage_sound sound peerId (by simp) (by simp)
  | ended epoch peerId reason now =>
    obtain rfl := Option.some.inj move
    exact onMulticastMessage_sound sound peerId (by simp) (by simp)
  | sessionStarted epoch now =>
    obtain rfl := Option.some.inj move
    exact (dispatch_sound sound (by simp) (by simp)).marked (fun _ => rfl) (fun _ => rfl) rfl
  | sessionEnded epoch reason now =>
    obtain rfl := Option.some.inj move
    exact (dispatch_sound sound (by simp) (by simp)).marked (fun _ => rfl) (fun _ => rfl) rfl
  | timer timer now =>
    obtain ⟨-, same⟩ := Option.ite_none_right_eq_some.mp move
    obtain rfl := Option.some.inj same
    refine dispatch_sound sound (by simp) fun at_ same => ?_
    cases same
    exact meets.2

theorem start_sound : start.Sound :=
  ⟨trivial, fun awaits => (nomatch awaits), fun _ mem => (nomatch mem), fun _ mem => (nomatch mem), fun _ mem => (nomatch mem)⟩

theorem sound_of_reachable (reached : Reachable ((daemons params).restrict (Meets params)) d) : d.Sound := by
  refine @Reachable.invariant _ _ _ Sound ?_ ?_ _ reached
  · rintro _ rfl
    exact start_sound
  · exact fun _ _ _ sound move => step_sound sound move.1 move.2

-- A call leaves the machine and its timers as they are, or they handle an event.
theorem step_clocked {call : Call} {next : Daemon} (rings : d.Rings params call) (move : d.step params call = some next) :
    next.clocked = d.clocked ∨ ∃ event, next.clocked = d.clocked.handle params event ∧ d.clocked.Fires params event := by
  have message (sender : String) (event : Event) (fires : d.clocked.Fires params event) :
      (d.onMulticastMessage params sender event).clocked = d.clocked ∨
        ∃ handled, (d.onMulticastMessage params sender event).clocked = d.clocked.handle params handled ∧ d.clocked.Fires params handled := by
    unfold onMulticastMessage
    split
    · exact .inl rfl
    · exact .inr ⟨event, rfl, fires⟩
  cases call with
  | arbitrate score snrDb rmsDbfs canServe now fresh =>
    obtain rfl := Option.some.inj move
    exact .inr ⟨.localWake score snrDb rmsDbfs canServe now fresh, rfl, trivial⟩
  | timeout =>
    obtain ⟨-, same⟩ := Option.ite_none_right_eq_some.mp move
    exact .inl (Option.some.inj same ▸ rfl)
  | reply =>
    obtain ⟨-, same⟩ := Option.ite_none_left_eq_some.mp move
    exact .inl (Option.some.inj same ▸ rfl)
  | replyEarlier index => exact .inl (Option.some.inj move ▸ rfl)
  | wake epoch report now => exact Option.some.inj move ▸ message report.peerId (.peerWake epoch report now) trivial
  | claim epoch peerId now => exact Option.some.inj move ▸ message peerId (.peerClaim epoch peerId now) trivial
  | heartbeat epoch peerId now => exact Option.some.inj move ▸ message peerId (.peerHeartbeat epoch peerId now) trivial
  | ended epoch peerId reason now => exact Option.some.inj move ▸ message peerId (.peerEnd epoch peerId reason now) trivial
  | sessionStarted epoch now => exact .inr ⟨.voiceSessionStarted epoch now, Option.some.inj move ▸ rfl, trivial⟩
  | sessionEnded epoch reason now => exact .inr ⟨.voiceSessionEnded epoch reason now, Option.some.inj move ▸ rfl, trivial⟩
  | timer timer now =>
    obtain ⟨-, same⟩ := Option.ite_none_right_eq_some.mp move
    exact .inr ⟨.timerFired timer now, Option.some.inj same ▸ rfl, rings⟩

theorem armed_of_reachable (reached : Reachable ((daemons params).restrict (Rings params)) d) : d.Armed params := by
  refine @Reachable.invariant _ _ _ (Armed params) ?_ ?_ _ reached
  · rintro _ rfl
    exact ⟨trivial, fun candidate => (nomatch candidate), fun suppressed => (nomatch suppressed)⟩
  · rintro d call next armed ⟨rings, move⟩
    rcases step_clocked rings move with same | ⟨event, same, fires⟩
    · exact ⟨same ▸ armed.kept, same ▸ armed.rings, same ▸ armed.waits⟩
    · refine ⟨?_, ?_, ?_⟩
      · rw [same]
        exact Clocked.handle_kept armed.kept event
      · rw [same]
        exact Clocked.handle_rings armed.kept armed.rings fires
      · rw [same]
        exact Clocked.handle_waits armed.waits fires

/-- The arbitration of a peer ends, and so does the suppression by another. -/
structure Timed (daemon : Daemon) : Prop where
  candidate : daemon.machine.state = .candidate → (daemon.clocked.timers .arbWindow).isSome
  suppressed : daemon.machine.state = .suppressed → (daemon.clocked.timers .heartTimeout).isSome

theorem Armed.timed (armed : d.Armed params) : d.Timed := by
  refine ⟨armed.rings, fun state => ?_⟩
  rw [armed.waits state]
  rfl

end Proofs

end Daemon

end Jts.Peering
