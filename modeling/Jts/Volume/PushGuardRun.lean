import Jts.Volume.PushGuard
import Jts.Volume.HandoffSafety

set_option autoImplicit false

namespace Jts.Volume

open Shared.Operation (Ends read change run)
open Shared.Transition (System Reachable ofFn execute reachable_of_execute)

variable (floor : Floor)

/-- The winner of a handoff is guarded as its target was. -/
theorem Guarded.settled {speaker : Speaker} {winner : Source}
    (lane : volumeMode winner = .push → speaker.exposed = none ∨ speaker.exposed = some winner)
    (covered : ∀ source, speaker.exposed = some source ∨ winner = source → volumeMode source = .push →
      speaker.doubtful source = true → speaker.Below (percentToDb floor speaker.effectivePercent + readbackToleranceDb)) :
    Guarded floor (speaker.settled winner) :=
  .free floor rfl lane fun source heard push doubtful =>
    Speaker.Below.mono (covered source heard push doubtful) (tolerance_le_limit floor (speaker.settled winner) source)

theorem prepare_keeps {speaker : Speaker} (guarded : Guarded floor speaker) (free : speaker.handoff = none)
    (target : Source) : Keeps floor ((Action.prepare target).perform floor) speaker := by
  refine .bind (.read (.bind ((prepareSourceHandoff_ends floor guarded free target).mono fun handoff after prepares => ?_)))
  split
  · rename_i ok
    refine .change ⟨⟨fun source heard push doubtful => ?_, ?_⟩, prepares.still⟩
    · by_cases same : source = target
      · subst same
        exact Speaker.Below.mono (prepares.kept ok push doubtful) (tolerance_le_limit floor _ _)
      · have below := prepares.guarded.covered source heard push doubtful
        have other : handoff.currentSource ≠ source := fun eq => same (eq.symm.trans prepares.current)
        refine Speaker.Below.mono below (le_of_eq ?_)
        simp [Speaker.limit, Speaker.slack, Speaker.effectivePercent, prepares.free, other]
    · exact ⟨ok, prepares.prev, prepares.level, fun push => prepares.kept ok (prepares.current ▸ push) ∘
        (prepares.current ▸ ·), fun pushed => prepares.current ▸ prepares.pushed pushed,
        prepares.guarded.lane floor prepares.free⟩
  · exact .pure ⟨prepares.guarded, prepares.still⟩

theorem finalizeSourceHandoff_ends {speaker : Speaker} {handoff : Handoff}
    (prepared : Prepared floor speaker handoff) (selected : handoff.phase = .selected) :
    Steady (finalizeSourceHandoff floor handoff.prepared) speaker fun _ after =>
      Guarded floor (after.settled handoff.prepared.currentSource) ∧ after.raised = speaker.raised := by
  have exposed : speaker.exposed = some handoff.prepared.currentSource := by
    simpa [selected] using prepared.exposed
  have alone : ∀ {after : Speaker}, after.exposed = speaker.exposed → ∀ source,
      after.exposed = some source ∨ handoff.prepared.currentSource = source → source = handoff.prepared.currentSource := by
    rintro after same source (lane | rfl)
    · rw [same, exposed] at lane
      exact (Option.some.inj lane).symm
    · rfl
  unfold finalizeSourceHandoff
  rw [prepared.ok]
  simp only [Bool.not_true, Bool.false_eq_true, if_false]
  split
  · rename_i push
    split
    · rename_i pushed
      have proven := prepared.pushed pushed
      refine .bind ((await_ends speaker).mono ?_)
      rintro _ _ rfl
      refine .bind ((effectiveLevel_ends _).mono ?_)
      rintro _ speaker ⟨rfl, rfl⟩
      simp only [prepared.level, ne_eq, not_true_eq_false, if_false]
      refine (confirmPushModeCarrier_ends floor _ _ speaker).mono fun _ after kept => ?_
      obtain ⟨only, still⟩ := kept
      refine ⟨.settled floor (fun _ => .inr (only.exposed.trans exposed)) fun source heard _ doubtful => ?_, still ?_⟩
      · rw [alone only.exposed source heard, only.doubtful, proven] at doubtful
        cases doubtful
      · simp [Speaker.exposesDoubtful, exposed, proven]
    · refine .pure ⟨.settled floor (fun _ => .inr exposed) fun source heard _ doubtful => ?_, rfl⟩
      rw [alone rfl source heard] at doubtful
      exact prepared.target push doubtful
  · rename_i master
    refine .bind ((effectiveLevel_ends speaker).mono ?_)
    rintro _ speaker ⟨rfl, rfl⟩
    refine (setCamilla_ends floor _ speaker).mono fun _ after writes => ?_
    refine ⟨.settled floor (fun push => absurd push master) fun _ _ _ _ => ?_, writes.still (.inr (le_refl _))⟩
    rw [writes.only.effectivePercent]
    exact writes.below

theorem finalize_keeps {speaker : Speaker} (guarded : Guarded floor speaker)
    (selected : speaker.handoff.map Handoff.phase = some .selected) :
    Keeps floor (Action.finalize.perform floor) speaker := by
  refine .bind (.read ?_)
  split
  · rename_i handoff held
    have prepared : Prepared floor speaker handoff := by
      simpa [held] using guarded.lease
    have phase : handoff.phase = .selected := by
      simpa [held] using selected
    exact .bind ((finalizeSourceHandoff_ends floor prepared phase).mono fun _ _ ends => .change ends)
  · exact .pure ⟨guarded, rfl⟩

/-- The mux may give a handoff up only where the source it falls back on needs no guard. -/
def Speaker.Abortable (speaker : Speaker) : Prop :=
  volumeMode speaker.winner = .push → speaker.Lane ∧ speaker.doubtful speaker.winner = false

theorem abortSourceHandoff_ends {speaker : Speaker} {handoff : Handoff}
    (prepared : Prepared floor speaker handoff) (abortable : speaker.Abortable) :
    Steady (abortSourceHandoff floor handoff.prepared) speaker fun _ after =>
      Guarded floor (after.settled after.winner) ∧ after.raised = speaker.raised := by
  unfold abortSourceHandoff
  rw [prepared.ok, prepared.prev]
  refine .bind ((effectiveLevel_ends speaker).mono ?_)
  rintro _ speaker ⟨rfl, rfl⟩
  split
  · rename_i push
    obtain ⟨lane, proven⟩ := abortable push
    refine (confirmPushModeCarrier_ends floor _ _ speaker).mono fun _ after kept => ?_
    obtain ⟨only, still⟩ := kept
    have push : volumeMode after.winner = .push := only.winner ▸ push
    refine ⟨.settled floor (only.lane lane) fun source heard _ doubtful => ?_, still (lane.proven ‹_› proven)⟩
    rw [(only.lane lane).unheard push (by rw [only.doubtful, only.winner, proven]) heard] at doubtful
    cases doubtful
  · rename_i master
    refine (setCamilla_ends floor _ speaker).mono fun _ after writes => ?_
    have master : ¬ volumeMode after.winner = .push := writes.only.winner ▸ master
    refine ⟨.settled floor (fun push => absurd push master) fun _ _ _ _ => ?_, writes.still (.inr (le_refl _))⟩
    rw [writes.only.effectivePercent]
    exact writes.below

theorem abort_keeps {speaker : Speaker} (guarded : Guarded floor speaker) (abortable : speaker.Abortable) :
    Keeps floor (Action.abort.perform floor) speaker := by
  refine .bind (.read ?_)
  split
  · rename_i handoff held
    have prepared : Prepared floor speaker handoff := by
      simpa [held] using guarded.lease
    exact .bind ((abortSourceHandoff_ends floor prepared abortable).mono fun _ _ ends => .change ends)
  · exact .pure ⟨guarded, rfl⟩

theorem select_keeps {speaker : Speaker} (guarded : Guarded floor speaker)
    (fresh : speaker.handoff.map Handoff.phase = some .prepared) :
    Keeps floor (Action.select.perform floor) speaker := by
  refine .bind (.read ?_)
  split
  · rename_i handoff held
    have prepared : Prepared floor speaker handoff := by
      simpa [held] using guarded.lease
    have lane : speaker.Lane := by
      have phase : handoff.phase = .prepared := by
        simpa [held] using fresh
      simpa [phase] using prepared.exposed
    refine .bind ((await_ends speaker).mono ?_)
    rintro reply speaker rfl
    refine .change ⟨⟨fun source heard push doubtful => ?_, ?_⟩, rfl⟩
    · have same : ∀ exposed phase, Speaker.limit floor { speaker with
          exposed := exposed, handoff := some { prepared := handoff.prepared, phase := phase } } source =
          speaker.limit floor source := by
        simp [Speaker.limit, Speaker.slack, Speaker.effectivePercent, held]
      rw [same]
      by_cases target : source = handoff.prepared.currentSource
      · subst target
        exact (prepared.target push doubtful).mono (tolerance_le_limit floor speaker _)
      · refine guarded.covered source ?_ push doubtful
        rcases heard with lane | winner
        · split at lane
          · exact .inl lane
          · exact absurd (Option.some.inj lane).symm target
        · exact .inr winner
    · refine ⟨prepared.ok, prepared.prev, prepared.level, prepared.target, prepared.pushed, ?_⟩
      cases reply with
      | done => rfl
      | lost => exact .inr rfl
      | refused => exact .inl lane
  · exact .pure ⟨guarded, rfl⟩

-- The exposed lane may go, or become the winner's.
theorem Guarded.reselected {speaker : Speaker} (guarded : Guarded floor speaker) (free : speaker.handoff = none)
    {winner : Source} {exposed : Option Source} (lane : volumeMode winner = .push → exposed = none ∨ exposed = some winner)
    (same : winner = speaker.winner ∨ winner = .idle)
    (heard : ∀ source, exposed = some source → speaker.Heard source) :
    Guarded floor { speaker with winner := winner, exposed := exposed } := by
  refine .free floor free lane fun source heard_ push doubtful => ?_
  have before : speaker.Heard source := by
    rcases heard_ with lane | rfl
    · exact heard source lane
    · rcases same with same | idle
      · exact .inr same.symm
      · exact absurd push (by simp [idle, volumeMode])
  refine Speaker.Below.mono (guarded.covered source before push doubtful) (add_le_add_right ?_ _)
  have tolerance : readbackToleranceDb ≤ reconcileDriftDb := by norm_num [readbackToleranceDb, reconcileDriftDb]
  rcases same with rfl | rfl
  · exact le_refl _
  · have other : Source.idle ≠ source := by
      rintro rfl
      cases push
    simp only [Speaker.slack, free, other, Option.map_none, reduceCtorEq, or_self, if_false]
    split
    · exact tolerance
    · exact le_refl _

theorem idle_keeps {speaker : Speaker} (guarded : Guarded floor speaker) (free : speaker.handoff = none) :
    Keeps floor (Action.idle.perform floor) speaker := by
  refine .bind ((await_ends speaker).mono ?_)
  rintro reply speaker rfl
  refine .change ⟨guarded.reselected floor free (by simp [volumeMode]) (.inr rfl) fun source lane => ?_, rfl⟩
  split at lane
  · exact .inl lane
  · cases lane

theorem reassert_keeps {speaker : Speaker} (guarded : Guarded floor speaker) (free : speaker.handoff = none) :
    Keeps floor (Action.reassert.perform floor) speaker := by
  refine .bind ((await_ends speaker).mono ?_)
  rintro reply speaker rfl
  refine .change ⟨guarded.reselected floor free ?_ (.inl rfl) fun source lane => ?_, rfl⟩
  · intro push
    split
    · exact guarded.lane floor free push
    · exact .inr rfl
  · split at lane
    · exact .inl lane
    · exact .inr (Option.some.inj lane)

/-- What the runs exclude: a boot under a measurement that defers its write, and a handoff given up on a source that needs
its guard. -/
def Permitted (speaker : Speaker) (move : Move) : Prop :=
  match move.action with
  | .initialise _ held => held = false
  | .abort => speaker.Abortable
  | _ => True

theorem initial_guarded {speaker : Speaker} (fresh : speaker.Fresh) : Guarded floor speaker :=
  .free floor fresh.free fresh.lane fun source _ _ doubtful => by
    rw [fresh.proven] at doubtful
    cases doubtful

/-- One action, case by case. Only a boot may raise the gain, as its own push decides. -/
theorem perform_ends {speaker : Speaker} (guarded : Guarded floor speaker) {move : Move}
    (permitted : Permitted speaker move) (enabled : move.action.enabled speaker = true) :
    Steady (move.action.perform floor) speaker fun _ after =>
      Guarded floor after ∧ ((∀ ageSec held, move.action ≠ .initialise ageSec held) → after.raised = speaker.raised) := by
  have quiet : ∀ {action : Action}, Keeps floor (action.perform floor) speaker → Steady (action.perform floor) speaker
      fun _ after => Guarded floor after ∧
        ((∀ ageSec held, action ≠ .initialise ageSec held) → after.raised = speaker.raised) :=
    fun keeps => keeps.mono fun _ _ ends => ⟨ends.1, fun _ => ends.2⟩
  obtain ⟨action, answers⟩ := move
  simp only [Action.enabled] at enabled
  cases action with
  | select => exact quiet (select_keeps floor guarded (by simpa using enabled))
  | finalize => exact quiet (finalize_keeps floor guarded (by simpa using enabled))
  | abort => exact quiet (abort_keeps floor guarded permitted)
  | setListeningLevel percent measuring =>
      exact quiet (setListeningLevel_keeps floor guarded (by simpa using enabled) percent measuring)
  | adjustListeningLevel delta measuring =>
      exact quiet (adjustListeningLevel_keeps floor guarded (by simpa using enabled) delta measuring)
  | mute => exact quiet (mute_keeps floor guarded (by simpa using enabled))
  | unmute fallbackLevel measuring =>
      exact quiet (unmute_keeps floor guarded (by simpa using enabled) fallbackLevel measuring)
  | observe source level initial ownEcho recentWrite measuring =>
      exact quiet (.bind ((observe_keeps floor guarded (by simpa using enabled) source level initial ownEcho recentWrite
        measuring).mono fun _ _ ends => .pure ends))
  | transition prevSource currentSource voiceSession muxDelivered =>
      exact quiet (applyTransition_keeps floor guarded (by simpa using enabled) prevSource currentSource voiceSession
        muxDelivered)
  | prepare target => exact quiet (prepare_keeps floor guarded (by simpa using enabled) target)
  | idle => exact quiet (idle_keeps floor guarded (by simpa using enabled))
  | reassert => exact quiet (reassert_keeps floor guarded (by simpa using enabled))
  | initialise ageSec held =>
      obtain rfl : held = false := permitted
      exact (initialise_ends floor guarded (by simpa using enabled) ageSec).mono fun _ _ ends =>
        ⟨ends, fun other => absurd rfl (other ageSec false)⟩

theorem step_guarded {speaker next : Speaker} (guarded : Guarded floor speaker) {move : Move}
    (permitted : Permitted speaker move) (moved : step floor speaker move = some next) :
    Guarded floor next ∧ ((∀ ageSec held, move.action ≠ .initialise ageSec held) → next.raised = speaker.raised) := by
  unfold step at moved
  split at moved
  · rename_i enabled
    obtain rfl := Option.some.inj moved
    exact (perform_ends floor guarded permitted enabled).of_run (by simp [Answer.plain])
  · cases moved

theorem reachable_guarded {speaker : Speaker} (reached : Reachable ((speakerSystem floor).restrict Permitted) speaker) :
    Guarded floor speaker := by
  refine @Reachable.invariant _ _ _ (Guarded floor) ?_ ?_ _ reached
  · exact fun _ fresh => initial_guarded floor fresh
  · exact fun _ _ _ guarded moved => (step_guarded floor guarded moved.1 moved.2).1

/-- While a push-mode lane that no push or observation vouches for is exposed, Camilla is muted or no louder than the
level, and no operation but a boot raises it above. -/
theorem push_guard_is_kept {speaker : Speaker} (reached : Reachable ((speakerSystem floor).restrict Permitted) speaker) :
    (∀ source, speaker.exposed = some source → volumeMode source = .push → speaker.doubtful source = true →
      speaker.Below (speaker.limit floor source)) ∧
    ∀ move next, ((speakerSystem floor).restrict Permitted).Step speaker move next →
      (∀ ageSec held, move.action ≠ .initialise ageSec held) → next.raised = speaker.raised := by
  have guarded := reachable_guarded floor reached
  constructor
  · intro source exposed push doubtful
    exact guarded.covered source (.inl exposed) push doubtful
  · intro move next moved
    exact (step_guarded floor guarded moved.1 moved.2).2

section Runs

theorem playing_fresh : playing.Fresh := ⟨rfl, fun _ => rfl, fun _ => .inr rfl, rfl⟩

-- The push fails, and Camilla takes the guard.
def failedPush : Move where
  action := .setListeningLevel 50 false
  answers := [.refused, .done, .done, .done, .done]

theorem push_guard_is_kept_after_a_failed_push :
    ∃ speaker, execute (step lowFloor) playing [failedPush] = some speaker ∧ speaker.doubtful .spotify = true ∧
      speaker.Below (speaker.limit lowFloor .spotify) := by
  have moved : (execute (step lowFloor) playing [failedPush]).isSome = true := by decide +kernel
  obtain ⟨speaker, runs⟩ := Option.isSome_iff_exists.mp moved
  have kept : speaker.exposed = some .spotify ∧ speaker.doubtful .spotify = true := by
    have seen : (execute (step lowFloor) playing [failedPush]).map
        (fun speaker => (speaker.exposed, speaker.doubtful .spotify)) = some (some .spotify, true) := by decide +kernel
    simpa [runs] using seen
  have reached : Reachable ((speakerSystem lowFloor).restrict Permitted) speaker := by
    have moved : step lowFloor playing failedPush = some speaker := by
      simpa [execute] using runs
    have permitted : Permitted playing failedPush := trivial
    exact .step (.initial playing_fresh) ⟨permitted, moved⟩
  exact ⟨speaker, runs, kept.2, (push_guard_is_kept lowFloor reached).1 .spotify kept.1 rfl kept.2⟩

def abandoned : List Move :=
  [failedPush, ⟨.prepare .airplay, [.done]⟩, ⟨.select, [.refused]⟩, ⟨.abort, List.replicate 10 .done⟩]

structure Sight where
  exposed : Option Source
  doubtful : Bool
  mainMute : Bool
  gain : Db
  percentDb : Db
  raised : Bool
deriving DecidableEq

def Speaker.sight (speaker : Speaker) : Sight where
  exposed := speaker.exposed
  doubtful := speaker.doubtful .spotify
  mainMute := speaker.mainMute
  gain := speaker.gain
  percentDb := percentToDb lowFloor speaker.effectivePercent
  raised := speaker.raised

-- Spotify's lane sounds above its level, and nothing vouches for it.
def Speaker.Loud (speaker : Speaker) : Prop :=
  speaker.exposed = some .spotify ∧ speaker.doubtful .spotify = true ∧ speaker.mainMute = false ∧
    percentToDb lowFloor speaker.effectivePercent < speaker.gain

theorem execute_loud {moves : List Move} {gain percentDb : Db} {raised : Bool} (loud : percentDb < gain)
    (runs : (execute (step lowFloor) playing moves).map Speaker.sight =
      some ⟨some .spotify, true, false, gain, percentDb, raised⟩) :
    ∃ speaker, execute (step lowFloor) playing moves = some speaker ∧ Reachable (speakerSystem lowFloor) speaker ∧
      speaker.Loud ∧ speaker.gain = gain ∧ speaker.raised = raised := by
  obtain ⟨speaker, ends, seen⟩ := Option.map_eq_some_iff.mp runs
  have reached : Reachable (speakerSystem lowFloor) speaker := reachable_of_execute playing_fresh ends
  simp only [Speaker.sight, Sight.mk.injEq] at seen
  obtain ⟨exposed, doubtful, mainMute, same, level, raised⟩ := seen
  exact ⟨speaker, ends, reached, ⟨exposed, doubtful, mainMute, by rwa [level, same]⟩, same, raised⟩

-- Spotify is still active, so the boot pins Camilla open before it pushes. The push fails, and Camilla refuses the guard.
def pinned : List Move := [failedPush, ⟨.initialise 0 false, List.replicate 4 .done⟩]

-- The fader is the measurement's: a stale level goes down, and the guard stays where the old level put it.
def heldBoot : List Move := [{ failedPush with action := .setListeningLevel 80 false }, ⟨.initialise 1800 true, []⟩]

/-- Where Camilla refuses the guard, the lane stays loud. A handoff given up lifts a guard that was in place, and so does the
pin of a boot. A boot under a measurement leaves the guard above the level that it lowers. -/
theorem guard_is_refused_or_lifted :
    (∃ speaker, Reachable (speakerSystem lowFloor) speaker ∧ speaker.Loud ∧ speaker.gain = 0 ∧ speaker.raised = false) ∧
    (∃ speaker, Reachable (speakerSystem lowFloor) speaker ∧ speaker.Loud ∧ speaker.gain = 0 ∧ speaker.raised = true) ∧
    (∃ speaker, execute (step lowFloor) playing pinned = some speaker ∧ Reachable (speakerSystem lowFloor) speaker ∧
      speaker.Loud ∧ speaker.gain = 0 ∧ speaker.raised = true) ∧
    ∃ speaker, execute (step lowFloor) playing heldBoot = some speaker ∧ Reachable (speakerSystem lowFloor) speaker ∧
      speaker.Loud ∧ speaker.gain = percentToDb lowFloor 80 ∧ speaker.raised = false := by
  have loud : percentToDb lowFloor 50 < 0 := by decide +kernel
  have lowered : percentToDb lowFloor 70 < percentToDb lowFloor 80 := by decide +kernel
  refine ⟨?_, ?_, ?_, ?_⟩
  · obtain ⟨speaker, -, ends⟩ := @execute_loud [{ failedPush with answers := [] }] 0 _ false loud (by decide +kernel)
    exact ⟨speaker, ends⟩
  · obtain ⟨speaker, -, ends⟩ := @execute_loud abandoned 0 _ true loud (by decide +kernel)
    exact ⟨speaker, ends⟩
  · exact execute_loud loud (by decide +kernel)
  · exact execute_loud lowered (by decide +kernel)

end Runs

end Jts.Volume
