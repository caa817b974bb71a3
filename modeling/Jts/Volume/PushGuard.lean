import Jts.Volume.Coordinator

set_option autoImplicit false

namespace Jts.Volume

open Shared.Operation (Ends read change run)
open Shared.Transition (System Reachable ofFn)

variable (floor : Floor)

/-- The operation ends as stated as long as no other process edits the record meanwhile. -/
abbrev Steady {Result : Type} (operation : VolumeOp Result) (speaker : Speaker) (post : Result → Speaker → Prop) : Prop :=
  Ends (fun answer => answer.edit = none) operation speaker post

theorem await_ends (speaker : Speaker) : Steady await speaker fun _ after => after = speaker := by
  refine .bind (@Ends.ask _ _ (fun answer : Answer => answer.edit = none) _ rfl _ _ ?_)
  intro answer steady
  refine .bind (.change (.pure ?_))
  rw [steady]
  rfl

/-- Camilla is muted or no louder than a level, unless it failed to be lowered to one. -/
def Speaker.Below (speaker : Speaker) (db : Db) : Prop :=
  speaker.mainMute = true ∨ speaker.gain ≤ db ∨ speaker.unlowered = true

theorem Speaker.Below.mono {speaker : Speaker} {low high : Db} (below : speaker.Below low) (le : low ≤ high) :
    speaker.Below high := by
  rcases below with muted | quiet | failed
  · exact .inl muted
  · exact .inr (.inl (quiet.trans le))
  · exact .inr (.inr failed)

/-- Nothing but Camilla and the stored dB has moved. -/
structure CarrierOnly (before after : Speaker) : Prop where
  listeningLevel : after.listeningLevel = before.listeningLevel
  preMuteLevel : after.preMuteLevel = before.preMuteLevel
  winner : after.winner = before.winner
  exposed : after.exposed = before.exposed
  handoff : after.handoff = before.handoff
  doubtful : after.doubtful = before.doubtful

theorem CarrierOnly.refl (speaker : Speaker) : CarrierOnly speaker speaker := ⟨rfl, rfl, rfl, rfl, rfl, rfl⟩

theorem CarrierOnly.trans {first middle last : Speaker} (before : CarrierOnly first middle)
    (after : CarrierOnly middle last) : CarrierOnly first last where
  listeningLevel := after.listeningLevel.trans before.listeningLevel
  preMuteLevel := after.preMuteLevel.trans before.preMuteLevel
  winner := after.winner.trans before.winner
  exposed := after.exposed.trans before.exposed
  handoff := after.handoff.trans before.handoff
  doubtful := after.doubtful.trans before.doubtful

theorem CarrierOnly.effectivePercent {before after : Speaker} (only : CarrierOnly before after) :
    after.effectivePercent = before.effectivePercent := by
  rw [Speaker.effectivePercent, only.listeningLevel, only.preMuteLevel, Speaker.effectivePercent]

theorem CarrierOnly.exposesDoubtful {before after : Speaker} (only : CarrierOnly before after) :
    after.exposesDoubtful = before.exposesDoubtful := by
  rw [Speaker.exposesDoubtful, only.exposed, only.doubtful, Speaker.exposesDoubtful]

/-- A write to Camilla at a level: it ends below it, and raises nothing that the level allows. -/
structure Writes (before : Speaker) (db : Db) (after : Speaker) : Prop where
  only : CarrierOnly before after
  below : after.Below (db + readbackToleranceDb)
  still : before.exposesDoubtful = false ∨ db ≤ percentToDb floor before.effectivePercent → after.raised = before.raised

theorem readVolumeAndMute_ends (speaker : Speaker) :
    Steady readVolumeAndMute speaker fun current after =>
      after = speaker ∧ (current = none ∨ current = some (speaker.gain, speaker.mainMute)) := by
  refine .bind ((await_ends speaker).mono ?_)
  rintro reply _ rfl
  refine .bind (.read (.pure ⟨rfl, ?_⟩))
  split
  · exact .inr rfl
  · exact .inl rfl

theorem writeMainMute_ends (muted : Bool) (speaker : Speaker) :
    Steady (writeMainMute muted) speaker fun ok after =>
      (ok = false ∧ after = speaker) ∨ after = { speaker with mainMute := muted } := by
  refine .bind ((await_ends speaker).mono ?_)
  rintro reply _ rfl
  cases reply with
  | done => exact .bind (.change (.pure (.inr rfl)))
  | lost => exact .bind (.change (.pure (.inr rfl)))
  | refused => exact .bind (.pure (.pure (.inl ⟨rfl, rfl⟩)))

theorem faderMatches_le {observed db : Db} (eq : faderMatches (some observed) db = true) :
    observed ≤ db + readbackToleranceDb := by
  simp only [faderMatches, decide_eq_true_eq] at eq
  linarith [(abs_le.mp eq).2]

theorem setVolumeDb_ends (db : Db) (speaker : Speaker) :
    Steady (setVolumeDb floor db) speaker fun _ after => after = speaker ∨ after = speaker.landed floor db := by
  refine .bind ((await_ends speaker).mono ?_)
  rintro reply _ rfl
  cases reply with
  | done => exact .bind (.change (.pure (.inr rfl)))
  | lost => exact .bind (.change (.pure (.inr rfl)))
  | refused => exact .bind (.pure (.pure (.inl rfl)))

theorem landed_raised {speaker : Speaker} {db : Db}
    (allowed : speaker.exposesDoubtful = false ∨ db ≤ percentToDb floor speaker.effectivePercent) :
    (speaker.landed floor db).raised = speaker.raised := by
  simp only [Speaker.landed]
  rcases allowed with proven | low
  · simp [proven]
  · have below : ¬ percentToDb floor speaker.effectivePercent < min db volumeCeilingDb :=
      not_lt.mpr ((min_le_left _ _).trans low)
    simp [below]

/-- What a declaration leaves: the fader at or below its level when it is confirmed, and a failure on record when it is
above. -/
structure Declares (before : Speaker) (db : Db) (ok : Bool) (after : Speaker) : Prop where
  only : CarrierOnly before after
  mainMute : after.mainMute = before.mainMute
  confirmed : ok = true → after.gain ≤ db + readbackToleranceDb
  below : after.gain ≤ db + readbackToleranceDb ∨ after.unlowered = true
  still : before.exposesDoubtful = false ∨ db ≤ percentToDb floor before.effectivePercent → after.raised = before.raised

-- The speaker between the write and its confirmation.
theorem declared_ends {before middle : Speaker} {db : Db} (moved : middle = before ∨ middle = before.landed floor db)
    {ok : Bool} (seen : ok = true → middle.gain ≤ db + readbackToleranceDb) :
    Declares floor before db ok (middle.declared db ok) where
  only := by rcases moved with rfl | rfl <;> exact ⟨rfl, rfl, rfl, rfl, rfl, rfl⟩
  mainMute := by rcases moved with rfl | rfl <;> rfl
  confirmed := seen
  below := by
    cases ok with
    | true => exact .inl (seen rfl)
    | false =>
        simp only [Speaker.declared, Bool.not_false, Bool.true_and, decide_eq_true_eq]
        exact (lt_or_ge _ _).symm
  still := by
    rcases moved with rfl | rfl
    · exact fun _ => rfl
    · exact landed_raised floor

/-- A declared level is confirmed only by a fader that reads it. -/
theorem declareHouseholdLevelDb_ends (db : Db) (speaker : Speaker) :
    Steady (declareHouseholdLevelDb floor db) speaker (Declares floor speaker db) := by
  have seen_le : ∀ {current : Option (Db × Bool)} {at_ : Speaker},
      current = none ∨ current = some (at_.gain, at_.mainMute) → faderMatches (current.map Prod.fst) db = true →
        at_.gain ≤ db + readbackToleranceDb := by
    rintro _ at_ (rfl | rfl) matches_
    · cases matches_
    · exact faderMatches_le matches_
  refine .bind ((readVolumeAndMute_ends speaker).mono ?_)
  rintro before _ ⟨rfl, seen⟩
  dsimp only
  split
  · rename_i matches_
    exact .bind (.change (.pure (declared_ends floor (.inl rfl) fun _ => seen_le seen matches_)))
  · refine .bind ((setVolumeDb_ends floor db _).mono ?_)
    rintro applied middle moved
    split
    · refine .bind ((readVolumeAndMute_ends middle).mono ?_)
      rintro observed _ ⟨rfl, seen⟩
      exact .bind (.change (.pure (declared_ends floor moved (seen_le seen))))
    · exact .bind (.change (.pure (declared_ends floor moved (by simp))))

theorem Declares.writes {before after : Speaker} {db : Db} {ok : Bool} (declares : Declares floor before db ok after) :
    Writes floor before db after where
  only := declares.only
  below := .inr declares.below
  still := declares.still

theorem CarrierOnly.mute (speaker : Speaker) (muted : Bool) : CarrierOnly speaker { speaker with mainMute := muted } :=
  ⟨rfl, rfl, rfl, rfl, rfl, rfl⟩

-- The count of the writes is no part of the carrier.
theorem Writes.counted {before after : Speaker} {db : Db} {count : Nat}
    (writes : Writes floor { before with written := count } db after) : Writes floor before db after :=
  ⟨⟨writes.only.1, writes.only.2, writes.only.3, writes.only.4, writes.only.5, writes.only.6⟩, writes.below, writes.still⟩

theorem writeMuted_ends (db : Db) (speaker : Speaker) :
    Steady (do let muteOk ← writeMainMute true; let _ ← declareHouseholdLevelDb floor db; return muteOk) speaker
      fun _ after => Writes floor speaker db after := by
  refine .bind ((writeMainMute_ends true speaker).mono fun muteOk middle muted => ?_)
  refine .bind ((declareHouseholdLevelDb_ends floor db middle).mono fun ok after declares => .pure ?_)
  rcases muted with ⟨-, rfl⟩ | rfl
  · exact declares.writes
  · exact ⟨(CarrierOnly.mute _ true).trans declares.only, .inl declares.mainMute, declares.still⟩

theorem writeAudible_ends (db : Db) (speaker : Speaker) :
    Steady (do
      let volumeOk ← declareHouseholdLevelDb floor db
      if volumeOk then writeMainMute false else return false) speaker fun _ after => Writes floor speaker db after := by
  refine .bind ((declareHouseholdLevelDb_ends floor db speaker).mono fun ok middle declares => ?_)
  split
  · rename_i confirmed
    refine (writeMainMute_ends false middle).mono fun _ after muted => ?_
    rcases muted with ⟨-, rfl⟩ | rfl
    · exact declares.writes
    · exact ⟨declares.only.trans (.mute middle false), .inr (.inl (declares.confirmed confirmed)), declares.still⟩
  · exact .pure declares.writes

theorem writeDbWithMute_ends (db : Db) (speaker : Speaker) :
    Steady (writeDbWithMute floor db) speaker fun _ after => Writes floor speaker db after := by
  refine .bind (.change ?_)
  split
  · exact (writeMuted_ends floor db _).mono fun _ _ writes => writes.counted
  · exact (writeAudible_ends floor db _).mono fun _ _ writes => writes.counted

theorem Writes.saved {before after : Speaker} {db saved : Db} (writes : Writes floor before db after) :
    Writes floor before db { after with mainVolumeDb := saved } :=
  ⟨⟨writes.only.1, writes.only.2, writes.only.3, writes.only.4, writes.only.5, writes.only.6⟩, writes.below, writes.still⟩

theorem setCamillaDb_ends (db : Db) (speaker : Speaker) :
    Steady (setCamillaDb floor db) speaker fun _ after => Writes floor speaker db after := by
  refine .bind ((writeDbWithMute_ends floor db speaker).mono fun ok after writes => ?_)
  dsimp only
  split
  · exact .bind (.change (.pure writes.saved))
  · exact .bind (.pure (.pure writes))

theorem setCamilla_ends (level : Nat) (speaker : Speaker) :
    Steady (setCamilla floor level) speaker fun _ after => Writes floor speaker (percentToDb floor level) after :=
  .bind ((writeDbWithMute_ends floor _ speaker).mono fun _ _ writes => .bind (.change (.pure writes.saved)))

def Speaker.afterPush (speaker : Speaker) (source : Source) (level : Nat) (ok : Bool) : Speaker :=
  { speaker with
    doubtful := fun other => if other = source then !ok else speaker.doubtful other
    pushed := fun other =>
      if other = source ∧ ok = true then some ⟨level, speaker.effectivePercent⟩ else speaker.pushed other }

theorem pushSource_ends {source : Source} (push : volumeMode source = .push) (level : Nat) (speaker : Speaker) :
    Steady (pushSource source level) speaker fun ok after => after = speaker.afterPush source level ok := by
  unfold pushSource
  rw [if_neg (by simp [push])]
  refine .bind (.read (.bind ((await_ends speaker).mono ?_)))
  rintro reply _ rfl
  refine .bind (.change (.pure ?_))
  cases reply <;> simp [Speaker.afterPush]

theorem clearConfirmedPushGuard_ends (source : Source) (speaker : Speaker) :
    Steady (clearConfirmedPushGuard floor source) speaker fun _ after =>
      CarrierOnly speaker after ∧ (speaker.exposesDoubtful = false → after.raised = speaker.raised) := by
  unfold clearConfirmedPushGuard
  split
  · exact .pure ⟨.refl _, fun _ => rfl⟩
  · refine .bind (.read (.bind ((readVolumeAndMute_ends speaker).mono ?_)))
    rintro current _ ⟨rfl, -⟩
    dsimp only
    split
    · exact .pure ⟨.refl _, fun _ => rfl⟩
    · exact (setCamillaDb_ends floor 0 _).mono fun _ _ writes => ⟨writes.only, fun proven => writes.still (.inl proven)⟩

/-- A confirmed carrier may be raised, which is why no exposed source may be in doubt by then. -/
theorem confirmPushModeCarrierWithMutation_ends (source : Source) (level : Nat) (includeLiveGuard : Bool)
    (speaker : Speaker) :
    Steady (confirmPushModeCarrierWithMutation floor source level includeLiveGuard) speaker fun _ after =>
      CarrierOnly speaker after ∧ (speaker.exposesDoubtful = false → after.raised = speaker.raised) := by
  unfold confirmPushModeCarrierWithMutation
  split
  · exact .pure ⟨.refl _, fun _ => rfl⟩
  · split
    · exact .bind ((setCamillaDb_ends floor _ speaker).mono fun _ _ writes =>
        .pure ⟨writes.only, fun proven => writes.still (.inl proven)⟩)
    · refine .bind ((readVolumeAndMute_ends speaker).mono ?_)
      rintro current _ ⟨rfl, -⟩
      refine .bind (.read ?_)
      dsimp only
      split
      · exact .pure ⟨.refl _, fun _ => rfl⟩
      · exact .bind ((clearConfirmedPushGuard_ends floor source _).mono fun _ _ cleared => .pure cleared)

theorem confirmPushModeCarrier_ends (source : Source) (level : Nat) (speaker : Speaker) :
    Steady (confirmPushModeCarrier floor source level) speaker fun _ after =>
      CarrierOnly speaker after ∧ (speaker.exposesDoubtful = false → after.raised = speaker.raised) :=
  .bind ((confirmPushModeCarrierWithMutation_ends floor source level false speaker).mono fun _ _ kept => .pure kept)

/-- The lane of a push-mode winner is exposed, or none is. -/
def Speaker.Lane (speaker : Speaker) : Prop :=
  volumeMode speaker.winner = .push → speaker.exposed = none ∨ speaker.exposed = some speaker.winner

theorem Speaker.Lane.proven {speaker : Speaker} (lane : speaker.Lane) (push : volumeMode speaker.winner = .push)
    (proven : speaker.doubtful speaker.winner = false) : speaker.exposesDoubtful = false := by
  rcases lane push with none | same
  · simp [Speaker.exposesDoubtful, none]
  · simp [Speaker.exposesDoubtful, same, proven]

/-- The sources that a listener may hear next: the exposed lane and the winner's. -/
def Speaker.Heard (speaker : Speaker) (source : Source) : Prop :=
  speaker.exposed = some source ∨ speaker.winner = source

theorem Speaker.Lane.eq_winner {speaker : Speaker} (lane : speaker.Lane) (push : volumeMode speaker.winner = .push)
    {source : Source} (heard : speaker.Heard source) : source = speaker.winner := by
  rcases heard with exposed | rfl
  · rcases lane push with none | winner
    · simp [none] at exposed
    · exact (Option.some.inj (winner.symm.trans exposed)).symm
  · rfl

theorem CarrierOnly.lane {before after : Speaker} (only : CarrierOnly before after) (lane : before.Lane) : after.Lane := by
  unfold Speaker.Lane
  rw [only.winner, only.exposed]
  exact lane

-- A push-mode winner without doubt leaves nothing to guard.
theorem Speaker.Lane.unheard {speaker : Speaker} (lane : speaker.Lane) (push : volumeMode speaker.winner = .push)
    (proven : speaker.doubtful speaker.winner = false) {source : Source} (heard : speaker.Heard source) :
    speaker.doubtful source = false := by
  rw [lane.eq_winner push heard]
  exact proven

/-- A push-mode source that may be heard and is in doubt is kept below a level. -/
def Speaker.GuardedAt (speaker : Speaker) (limit : Source → Db) : Prop :=
  ∀ source, speaker.Heard source → volumeMode source = .push → speaker.doubtful source = true →
    speaker.Below (limit source)

theorem Speaker.Below.guardedAt {speaker : Speaker} {level : Db} (below : speaker.Below level) {limit : Source → Db}
    (le : ∀ source, level ≤ limit source) : speaker.GuardedAt limit :=
  fun source _ _ _ => below.mono (le source)

/-- What every carrier operation of the winner leaves, at the level that it was given. -/
structure Carries (before : Speaker) (level : Nat) (after : Speaker) : Prop where
  listeningLevel : after.listeningLevel = before.listeningLevel
  preMuteLevel : after.preMuteLevel = before.preMuteLevel
  winner : after.winner = before.winner
  exposed : after.exposed = before.exposed
  handoff : after.handoff = before.handoff
  guarded : after.GuardedAt fun _ => percentToDb floor level + readbackToleranceDb
  still : level = before.effectivePercent → after.raised = before.raised

theorem Writes.carries {before after : Speaker} {level : Nat}
    (writes : Writes floor before (percentToDb floor level) after) : Carries floor before level after where
  listeningLevel := writes.only.listeningLevel
  preMuteLevel := writes.only.preMuteLevel
  winner := writes.only.winner
  exposed := writes.only.exposed
  handoff := writes.only.handoff
  guarded := writes.below.guardedAt fun _ => le_refl _
  still := fun same => writes.still (.inr (same ▸ le_refl _))

/-- The push to the winner vouches for it and its guard is lifted, or the guard takes over. -/
theorem pushOrGuard_ends {speaker : Speaker} (push : volumeMode speaker.winner = .push) (lane : speaker.Lane)
    (level : Nat) : Steady (pushOrGuard floor speaker.winner level) speaker fun _ after => Carries floor speaker level after := by
  refine .bind ((pushSource_ends push level speaker).mono ?_)
  rintro ok _ rfl
  cases ok with
  | true =>
      refine .bind ((confirmPushModeCarrier_ends floor speaker.winner level _).mono fun _ after kept => .pure ?_)
      obtain ⟨only, still⟩ := kept
      refine ⟨only.1, only.2, only.3, only.4, only.5, ?_, fun _ => still ?_⟩
      · intro source heard _ doubtful
        have lane : after.Lane := only.lane lane
        have push : volumeMode after.winner = .push := only.winner ▸ push
        rw [lane.unheard push (by simp [only.doubtful, only.winner, Speaker.afterPush]) heard] at doubtful
        cases doubtful
      · exact @Speaker.Lane.proven (speaker.afterPush speaker.winner level true) lane push (by simp [Speaker.afterPush])
  | false =>
      refine .bind ((setCamillaDb_ends floor (percentToDb floor level) _).mono fun _ after writes => .pure ?_)
      have carries := writes.carries
      exact ⟨carries.1, carries.2, carries.3, carries.4, carries.5, carries.6, carries.7⟩

theorem dispatch_ends {speaker : Speaker} (lane : speaker.Lane) (level : Nat) :
    Steady (dispatch floor level) speaker fun _ after => Carries floor speaker level after := by
  refine .bind (.read ?_)
  dsimp only
  split
  · rename_i push
    exact .bind ((pushOrGuard_ends floor push lane level).mono fun _ _ carries => .pure carries)
  · exact .bind ((setCamilla_ends floor level speaker).mono fun _ _ writes => .pure writes.carries)

/-- Outside a handoff the lane of a source in doubt is at the level, but for the readback tolerance. Where a SELECT went
through without its reply, fan-in exposes another lane than the mux's winner, and only the coordinator's dead band holds. -/
def Speaker.slack (speaker : Speaker) (source : Source) : Db :=
  if speaker.winner = source ∨ speaker.handoff.map (fun handoff => handoff.prepared.currentSource) = some source then
    readbackToleranceDb
  else reconcileDriftDb

def Speaker.limit (speaker : Speaker) (source : Source) : Db :=
  percentToDb floor speaker.effectivePercent + speaker.slack source

theorem tolerance_le_slack (speaker : Speaker) (source : Source) : readbackToleranceDb ≤ speaker.slack source := by
  unfold Speaker.slack
  split
  · exact le_refl _
  · norm_num [readbackToleranceDb, reconcileDriftDb]

theorem tolerance_le_limit (speaker : Speaker) (source : Source) :
    percentToDb floor speaker.effectivePercent + readbackToleranceDb ≤ speaker.limit floor source :=
  add_le_add_right (tolerance_le_slack speaker source) _

/-- What a handoff in progress knows about its two sources. -/
structure Prepared (speaker : Speaker) (handoff : Handoff) : Prop where
  ok : handoff.prepared.ok = true
  prev : handoff.prepared.prevSource = speaker.winner
  level : handoff.prepared.level = speaker.effectivePercent
  target : volumeMode handoff.prepared.currentSource = .push →
    speaker.doubtful handoff.prepared.currentSource = true →
      speaker.Below (percentToDb floor speaker.effectivePercent + readbackToleranceDb)
  pushed : handoff.prepared.pushOk = some true → speaker.doubtful handoff.prepared.currentSource = false
  exposed : match handoff.phase with
    | .prepared => speaker.Lane
    | .selected => speaker.exposed = some handoff.prepared.currentSource
    | .unselected => speaker.Lane ∨ speaker.exposed = some handoff.prepared.currentSource

/-- The invariant between two awaits of the mux, and between any two operations. -/
structure Guarded (speaker : Speaker) : Prop where
  covered : speaker.GuardedAt (speaker.limit floor)
  lease : match speaker.handoff with
    | none => speaker.Lane
    | some handoff => Prepared floor speaker handoff

theorem Guarded.lane {speaker : Speaker} (guarded : Guarded floor speaker) (free : speaker.handoff = none) :
    speaker.Lane := by
  simpa [free] using guarded.lease

theorem Guarded.free {speaker : Speaker} (free : speaker.handoff = none) (lane : speaker.Lane)
    (covered : speaker.GuardedAt (speaker.limit floor)) : Guarded floor speaker :=
  ⟨covered, by simpa [free] using lane⟩

theorem Carries.lane {before after : Speaker} {level : Nat} (carries : Carries floor before level after)
    (lane : before.Lane) : after.Lane := by
  unfold Speaker.Lane
  rw [carries.winner, carries.exposed]
  exact lane

theorem Carries.effectivePercent {before after : Speaker} {level : Nat} (carries : Carries floor before level after) :
    after.effectivePercent = before.effectivePercent := by
  rw [Speaker.effectivePercent, carries.listeningLevel, carries.preMuteLevel, Speaker.effectivePercent]

/-- Carrying the effective level leaves the speaker guarded. -/
theorem Carries.guardedAt {before after : Speaker} (carries : Carries floor before before.effectivePercent after)
    (free : before.handoff = none) (lane : before.Lane) : Guarded floor after := by
  refine .free floor (carries.handoff.trans free) (carries.lane floor lane) fun source heard push doubtful => ?_
  have below := carries.guarded source heard push doubtful
  rw [← carries.effectivePercent] at below
  exact below.mono (tolerance_le_limit floor after source)

/-- An action keeps the guard, and raises nothing for a source in doubt. -/
abbrev Keeps (operation : VolumeOp Unit) (speaker : Speaker) : Prop :=
  Steady operation speaker fun _ after => Guarded floor after ∧ after.raised = speaker.raised

theorem publishThenDispatch_keeps {speaker : Speaker} (free : speaker.handoff = none) (lane : speaker.Lane)
    {level : Nat} (same : level = speaker.effectivePercent) (restoreLevel : Option Nat) :
    Keeps floor (publishThenDispatch floor level restoreLevel) speaker := by
  subst same
  have dispatches : ∀ middle : Speaker, (middle = speaker ∨ middle = { speaker with mainMute := true }) →
      Steady (dispatch floor speaker.effectivePercent) middle fun _ after =>
        Guarded floor after ∧ after.raised = speaker.raised := by
    rintro middle (rfl | rfl)
    · exact (dispatch_ends floor lane _).mono fun _ _ carries => ⟨carries.guardedAt floor free lane, carries.still rfl⟩
    · exact (@dispatch_ends floor { speaker with mainMute := true } lane _).mono fun _ _ carries =>
        ⟨carries.guardedAt floor free lane, carries.still rfl⟩
  unfold publishThenDispatch
  split
  · refine .bind ((writeMainMute_ends true speaker).mono fun _ middle muted => dispatches middle ?_)
    exact muted.imp And.right id
  · exact dispatches speaker (.inl rfl)

theorem unmuted_keeps {speaker : Speaker} (guarded : Guarded floor speaker) (free : speaker.handoff = none)
    (level : Nat) :
    Steady (do change fun speaker => speaker.unmuted level; publishThenDispatch floor level none) speaker fun _ after =>
      Guarded floor after ∧ after.raised = speaker.raised :=
  .bind (.change (@publishThenDispatch_keeps floor (speaker.unmuted level) free (guarded.lane floor free) level rfl none))

theorem setListeningLevel_keeps {speaker : Speaker} (guarded : Guarded floor speaker) (free : speaker.handoff = none)
    (percent : Int) (measuring : Bool) : Keeps floor (setListeningLevel floor percent measuring) speaker := by
  unfold setListeningLevel
  split
  · exact .pure ⟨guarded, rfl⟩
  · exact unmuted_keeps floor guarded free _

theorem adjustListeningLevel_keeps {speaker : Speaker} (guarded : Guarded floor speaker)
    (free : speaker.handoff = none) (delta : Int) (measuring : Bool) :
    Keeps floor (adjustListeningLevel floor delta measuring) speaker := by
  unfold adjustListeningLevel
  split
  · exact .pure ⟨guarded, rfl⟩
  · exact .bind (.read (unmuted_keeps floor guarded free _))

theorem unmute_keeps {speaker : Speaker} (guarded : Guarded floor speaker) (free : speaker.handoff = none)
    (fallbackLevel : Int) (measuring : Bool) : Keeps floor (unmute floor fallbackLevel measuring) speaker := by
  unfold unmute
  split
  · exact .pure ⟨guarded, rfl⟩
  · exact .bind (.read (unmuted_keeps floor guarded free _))

theorem mute_keeps {speaker : Speaker} (guarded : Guarded floor speaker) (free : speaker.handoff = none) :
    Keeps floor (mute floor) speaker := by
  unfold mute
  refine .bind (.change ?_)
  refine .bind (.read ?_)
  have kept : speaker.muted.handoff = none ∧ speaker.muted.Lane ∧ 0 = speaker.muted.effectivePercent ∧
      speaker.muted.raised = speaker.raised := by
    unfold Speaker.muted
    split
    · exact ⟨free, guarded.lane floor free, rfl, rfl⟩
    · rename_i mute
      refine ⟨free, guarded.lane floor free, ?_, rfl⟩
      cases latch : speaker.preMuteLevel with
      | some level => simp [Speaker.effectivePercent, latch]
      | none =>
          have zero : speaker.listeningLevel = 0 := by
            simpa [latch] using mute
          simp [Speaker.effectivePercent, latch, zero]
  exact (publishThenDispatch_keeps floor kept.1 kept.2.1 kept.2.2.1 _).mono fun _ _ ends =>
    ⟨ends.1, ends.2.trans kept.2.2.2⟩

theorem Carries.rebooted {before after : Speaker} {level : Nat} (carries : Carries floor before level after)
    (free : before.handoff = none) (lane : before.Lane) : Guarded floor (after.unmuted level) :=
  .free floor (carries.handoff.trans free) (carries.lane floor lane) fun source heard push doubtful =>
    Speaker.Below.mono (carries.guarded source heard push doubtful) (tolerance_le_limit floor (after.unmuted level) source)

-- A boot pins a push-mode carrier before it pushes, so only its end is guarded.
theorem initialise_ends {speaker : Speaker} (guarded : Guarded floor speaker) (free : speaker.handoff = none)
    (ageSec : Int) : Steady (initialise floor ageSec false) speaker fun _ after => Guarded floor after := by
  have lane := guarded.lane floor free
  refine .bind (.read ?_)
  simp only [Bool.false_eq_true, if_false]
  split
  · exact .bind ((setCamilla_ends floor _ speaker).mono fun _ _ writes =>
      .change ((writes.carries floor).rebooted floor free lane))
  · refine .bind ((setCamillaDb_ends floor _ speaker).mono fun _ middle writes => ?_)
    have lane : middle.Lane := writes.only.lane lane
    exact .bind ((dispatch_ends floor lane _).mono fun _ _ carries =>
      .change (carries.rebooted floor (writes.only.handoff.trans free) lane))

/-- The carrier of a push-mode winner without doubt may be lifted. -/
theorem confirmWinner_ends {speaker : Speaker} (free : speaker.handoff = none) (lane : speaker.Lane)
    (push : volumeMode speaker.winner = .push) (proven : speaker.doubtful speaker.winner = false) (level : Nat)
    (includeLiveGuard : Bool) :
    Steady (confirmPushModeCarrierWithMutation floor speaker.winner level includeLiveGuard) speaker fun _ after =>
      Guarded floor after ∧ after.raised = speaker.raised := by
  refine (confirmPushModeCarrierWithMutation_ends floor _ _ includeLiveGuard speaker).mono fun _ after kept => ?_
  obtain ⟨only, still⟩ := kept
  refine ⟨.free floor (only.handoff.trans free) (only.lane lane) fun source heard _ doubtful => ?_,
    still (lane.proven push proven)⟩
  have winner : volumeMode after.winner = .push := only.winner ▸ push
  rw [(only.lane lane).unheard winner (by rw [only.doubtful, only.winner, proven]) heard] at doubtful
  cases doubtful

/-- The carrier of a source that is the winner and that was just observed. -/
theorem syncObservedCarrier_ends {speaker : Speaker} (free : speaker.handoff = none) (lane : speaker.Lane)
    (vouched : volumeMode speaker.winner = .push → speaker.doubtful speaker.winner = false)
    (unlatched : speaker.preMuteLevel = none) :
    Steady (syncObservedCarrier floor speaker.winner speaker.listeningLevel) speaker fun _ after =>
      Guarded floor after ∧ after.raised = speaker.raised := by
  have effective : speaker.effectivePercent = speaker.listeningLevel := by simp [Speaker.effectivePercent, unlatched]
  unfold syncObservedCarrier
  split
  · rename_i master
    refine .bind ((readVolumeAndMute_ends speaker).mono ?_)
    rintro current _ ⟨rfl, seen⟩
    split
    · exact .bind ((setCamilla_ends floor _ _).mono fun _ after writes => .pure
        ⟨(effective ▸ writes.carries floor).guardedAt floor free lane, writes.still (.inr (effective ▸ le_refl _))⟩)
    · rename_i at_ within
      refine .pure ⟨.free floor free lane fun source heard push doubtful => ?_, rfl⟩
      have other : at_.winner ≠ source := by
        rintro rfl
        exact absurd master (by simp [push])
      rcases seen with rfl | rfl
      · simp [converged] at within
      · simp only [converged, Bool.not_eq_true', Bool.not_eq_false, Bool.and_eq_true, decide_eq_true_eq,
          beq_iff_eq] at within
        refine .inr (.inl ?_)
        have near := (abs_le.mp within.1).1
        simp only [Speaker.limit, Speaker.slack, free, effective, other, Option.map_none, reduceCtorEq, or_self, if_false]
        linarith
  · rename_i push
    have push : volumeMode speaker.winner = .push := by
      cases mode : volumeMode speaker.winner with
      | push => rfl
      | camillaMaster => exact absurd mode push
    exact .bind ((confirmWinner_ends floor free lane push (vouched push) _ true).mono fun _ _ ends => .pure ends)

theorem takeObservation_ends {seen speaker : Speaker} (guarded : Guarded floor speaker) (free : speaker.handoff = none)
    (level : Nat) (ownEcho recentWrite : Bool) (same : seen.listeningLevel = speaker.listeningLevel)
    (latch : seen.preMuteLevel = speaker.preMuteLevel) :
    Steady (takeObservation floor seen speaker.winner level ownEcho recentWrite) speaker fun _ after =>
      Guarded floor after ∧ after.raised = speaker.raised := by
  have lane := guarded.lane floor free
  unfold takeObservation
  dsimp only
  split
  · rename_i latched
    have push : volumeMode speaker.winner = .push := by
      simp only [Bool.and_eq_true, beq_iff_eq] at latched
      exact latched.1.2
    exact .bind (.change (.bind ((@confirmWinner_ends floor ((speaker.confirmedToken speaker.winner
      speaker.muteToken).vouched speaker.winner) free lane push (by simp [Speaker.vouched, Speaker.confirmedToken]) 0
      true).mono fun _ _ ends => .pure ends)))
  · split
    · exact .pure ⟨guarded, rfl⟩
    · split
      · exact .pure ⟨guarded, rfl⟩
      · split
        · rename_i matched
          simp only [Bool.and_eq_true, beq_iff_eq, Option.isNone_iff_eq_none] at matched
          obtain ⟨rfl, unlatched⟩ := matched
          rw [same]
          exact .bind (.change (.bind ((@syncObservedCarrier_ends floor (speaker.vouched speaker.winner) free lane
            (fun _ => by simp [Speaker.vouched]) (latch.symm.trans unlatched)).mono fun _ _ ends => .pure ends)))
        · exact .bind (.change (.bind ((@syncObservedCarrier_ends floor (((speaker.unmuted level).confirmedToken
            speaker.winner none).vouched speaker.winner) free lane
            (fun _ => by simp [Speaker.vouched, Speaker.confirmedToken, Speaker.unmuted]) rfl).mono
            fun _ _ ends => .pure ends)))

theorem observe_keeps {speaker : Speaker} (guarded : Guarded floor speaker) (free : speaker.handoff = none)
    (source : Source) (level : Nat) (initial ownEcho recentWrite measuring : Bool) :
    Steady (observeSourceVolume floor source level initial ownEcho recentWrite measuring) speaker fun _ after =>
      Guarded floor after ∧ after.raised = speaker.raised := by
  refine .bind (.read ?_)
  split
  · exact .pure ⟨guarded, rfl⟩
  · rename_i winner
    obtain rfl : speaker.winner = source := by simpa using winner
    split
    · exact .pure ⟨guarded, rfl⟩
    · split
      · exact .pure ⟨guarded, rfl⟩
      · split
        · exact .bind (.change (@takeObservation_ends floor speaker (speaker.confirmedToken speaker.winner none)
            (.free floor free (guarded.lane floor free) guarded.covered) free level ownEcho recentWrite rfl rfl))
        · exact takeObservation_ends floor guarded free level ownEcho recentWrite rfl rfl

theorem applyTransition_keeps {speaker : Speaker} (guarded : Guarded floor speaker) (free : speaker.handoff = none)
    (prevSource currentSource : Source) (voiceSession muxDelivered : Bool) :
    Keeps floor (applyTransition floor prevSource currentSource voiceSession muxDelivered) speaker := by
  have lane := guarded.lane floor free
  unfold applyTransition
  split
  · exact .pure ⟨guarded, rfl⟩
  · refine .bind (.read ?_)
    split
    · exact .pure ⟨guarded, rfl⟩
    · rename_i active
      obtain rfl : speaker.winner = currentSource := by
        simp only [Bool.or_eq_true, decide_eq_true_eq, not_or, not_not] at active
        exact active.1
      refine .bind (.bind (.read (.pure ?_)))
      split
      · rename_i push
        exact .bind ((pushOrGuard_ends floor push lane _).mono fun _ _ carries =>
          .pure ⟨carries.guardedAt floor free lane, carries.still rfl⟩)
      · split
        · exact .bind ((setCamilla_ends floor _ speaker).mono fun _ _ writes =>
            .pure ⟨(writes.carries floor).guardedAt floor free lane, writes.still (.inr (le_refl _))⟩)
        · exact .pure ⟨guarded, rfl⟩

theorem effectiveLevel_ends (speaker : Speaker) :
    Steady effectiveLevel speaker fun level after => level = speaker.effectivePercent ∧ after = speaker :=
  .bind (.read (.pure ⟨rfl, rfl⟩))

-- Under the lease the level does not move, so the guard has settled at the first look.
theorem settleHandoffGuard_ends (speaker : Speaker) (adjustments : Nat) :
    Steady (settleHandoffGuard floor adjustments (percentToDb floor speaker.effectivePercent)) speaker
      fun settled after => settled = (speaker.effectivePercent, true) ∧ after = speaker := by
  have settled : percentToDb floor speaker.effectivePercent - reconcileDriftDb ≤
      percentToDb floor speaker.effectivePercent := by
    simp [reconcileDriftDb]
  cases adjustments with
  | zero =>
      refine .bind ((await_ends speaker).mono ?_)
      rintro _ _ rfl
      refine .bind ((effectiveLevel_ends _).mono ?_)
      rintro _ _ ⟨rfl, rfl⟩
      exact .pure ⟨by simp [settled], rfl⟩
  | succ adjustments =>
      refine .bind ((await_ends speaker).mono ?_)
      rintro _ _ rfl
      refine .bind ((effectiveLevel_ends _).mono ?_)
      rintro _ _ ⟨rfl, rfl⟩
      dsimp only
      rw [if_pos settled]
      exact .pure ⟨rfl, rfl⟩

/-- What the mux may rely on when a preparation is good. -/
structure Prepares (before : Speaker) (target : Source) (handoff : SourceHandoff) (after : Speaker) : Prop where
  guarded : Guarded floor after
  free : after.handoff = none
  still : after.raised = before.raised
  current : handoff.currentSource = target
  prev : handoff.prevSource = after.winner
  level : handoff.level = after.effectivePercent
  kept : handoff.ok = true → volumeMode target = .push → after.doubtful target = true →
    after.Below (percentToDb floor after.effectivePercent + readbackToleranceDb)
  pushed : handoff.pushOk = some true → after.doubtful target = false

theorem Writes.prepares {before after : Speaker} (lane : before.Lane) (free : before.handoff = none)
    (writes : Writes floor before (percentToDb floor before.effectivePercent) after) {target : Source}
    {handoff : SourceHandoff} (current : handoff.currentSource = target) (prev : handoff.prevSource = before.winner)
    (level : handoff.level = before.effectivePercent) (unpushed : handoff.pushOk ≠ some true) :
    Prepares floor before target handoff after where
  guarded := (writes.carries floor).guardedAt floor free lane
  free := writes.only.handoff.trans free
  still := writes.still (.inr (le_refl _))
  current := current
  prev := prev.trans writes.only.winner.symm
  level := level.trans writes.only.effectivePercent.symm
  kept := fun _ _ _ => by
    rw [writes.only.effectivePercent]
    exact writes.below
  pushed := fun pushed => absurd pushed unpushed

theorem guardHandoff_ends {speaker : Speaker} (lane : speaker.Lane) (free : speaker.handoff = none)
    {handoff : SourceHandoff} (prev : handoff.prevSource = speaker.winner)
    (level : handoff.level = speaker.effectivePercent) (unpushed : handoff.pushOk ≠ some true)
    (settledResult : HandoffResult) :
    Steady (guardHandoff floor handoff (percentToDb floor speaker.effectivePercent) settledResult) speaker
      (Prepares floor speaker handoff.currentSource) := by
  refine .bind ((setCamillaDb_ends floor _ speaker).mono fun ok middle writes => ?_)
  split
  · have settle := settleHandoffGuard_ends floor middle 3
    rw [writes.only.effectivePercent] at settle
    refine .bind (settle.mono ?_)
    rintro _ _ ⟨rfl, rfl⟩
    exact .pure (writes.prepares floor lane free rfl prev rfl unpushed)
  · exact .pure (writes.prepares floor lane free rfl prev level unpushed)

theorem prepareMaster_ends {speaker : Speaker} (guarded : Guarded floor speaker) (free : speaker.handoff = none)
    {handoff : SourceHandoff} (prev : handoff.prevSource = speaker.winner)
    (level : handoff.level = speaker.effectivePercent) (unpushed : handoff.pushOk = none)
    (master : volumeMode handoff.currentSource = .camillaMaster) (before : Option (Db × Bool)) :
    Steady (prepareMaster floor handoff before) speaker (Prepares floor speaker handoff.currentSource) := by
  have unpushed : handoff.pushOk ≠ some true := by simp [unpushed]
  have steady : ¬ percentToDb floor speaker.effectivePercent <
      percentToDb floor speaker.effectivePercent - reconcileDriftDb := by
    simp [reconcileDriftDb]
  unfold prepareMaster
  dsimp only
  rw [level]
  split
  · exact guardHandoff_ends floor (guarded.lane floor free) free prev level unpushed .ok
  · refine .bind ((effectiveLevel_ends speaker).mono ?_)
    rintro _ speaker ⟨rfl, rfl⟩
    rw [if_neg steady]
    exact .pure ⟨guarded, free, rfl, rfl, prev, level, fun _ push _ => absurd (master.symm.trans push) (by simp),
      fun pushed => absurd pushed unpushed⟩

theorem pushLatest_ends {source : Source} (push : volumeMode source = .push) (speaker : Speaker) :
    Steady (pushLatest source speaker.effectivePercent) speaker fun pushed after =>
      pushed.1 = speaker.effectivePercent ∧ after = speaker.afterPush source speaker.effectivePercent pushed.2 := by
  refine .bind ((pushSource_ends push _ speaker).mono ?_)
  rintro ok _ rfl
  cases ok with
  | false => exact .pure ⟨rfl, rfl⟩
  | true =>
      refine .bind ((effectiveLevel_ends _).mono ?_)
      rintro _ _ ⟨rfl, rfl⟩
      rw [if_pos (show (speaker.afterPush source speaker.effectivePercent true).effectivePercent =
        speaker.effectivePercent from rfl)]
      exact .pure ⟨rfl, rfl⟩

/-- A push that went well leaves its source without doubt, and the others as they were. -/
theorem Guarded.pushed {speaker : Speaker} (guarded : Guarded floor speaker) (free : speaker.handoff = none)
    (source : Source) (level : Nat) : Guarded floor (speaker.afterPush source level true) :=
  .free floor free (guarded.lane floor free) fun other heard push doubtful => by
    by_cases same : other = source
    · simp [Speaker.afterPush, same] at doubtful
    · refine guarded.covered other heard push ?_
      simpa [Speaker.afterPush, same] using doubtful

theorem preparePush_ends {speaker : Speaker} (guarded : Guarded floor speaker) (free : speaker.handoff = none)
    {handoff : SourceHandoff} (prev : handoff.prevSource = speaker.winner)
    (level : handoff.level = speaker.effectivePercent) (push : volumeMode handoff.currentSource = .push) :
    Steady (preparePush floor handoff) speaker (Prepares floor speaker handoff.currentSource) := by
  unfold preparePush
  rw [level]
  refine .bind ((pushLatest_ends push speaker).mono ?_)
  rintro ⟨_, ok⟩ _ ⟨rfl, rfl⟩
  have lane : speaker.Lane := guarded.lane floor free
  cases ok with
  | true =>
      refine .pure ⟨guarded.pushed floor free _ _, free, rfl, rfl, prev, rfl, ?_, ?_⟩
      · intro _ _ doubtful
        simp [Speaker.afterPush] at doubtful
      · intro _
        simp [Speaker.afterPush]
  | false =>
      have guard := @guardHandoff_ends floor (speaker.afterPush handoff.currentSource speaker.effectivePercent false)
        lane free { handoff with level := speaker.effectivePercent, pushOk := some false } prev rfl (by simp)
        .degradedSafe
      exact guard.mono fun _ _ ends =>
        ⟨ends.guarded, ends.free, ends.still, ends.current, ends.prev, ends.level, ends.kept, ends.pushed⟩

theorem prepareSourceHandoff_ends {speaker : Speaker} (guarded : Guarded floor speaker) (free : speaker.handoff = none)
    (target : Source) :
    Steady (prepareSourceHandoff floor speaker.winner target) speaker (Prepares floor speaker target) := by
  refine .bind ((effectiveLevel_ends speaker).mono ?_)
  rintro _ _ ⟨rfl, rfl⟩
  refine .bind ((readVolumeAndMute_ends _).mono ?_)
  rintro before _ ⟨rfl, -⟩
  rename_i speaker
  dsimp only
  split
  · rename_i same
    refine .pure ⟨guarded, free, rfl, rfl, rfl, rfl, fun _ push doubtful => ?_, by simp⟩
    have below := guarded.covered target (.inr same) push doubtful
    simpa [Speaker.limit, Speaker.slack, same] using below
  · split
    · rename_i master
      exact prepareMaster_ends floor guarded free rfl rfl rfl master before
    · rename_i push
      have push : volumeMode target = .push := by
        cases mode : volumeMode target with
        | push => rfl
        | camillaMaster => exact absurd mode push
      exact preparePush_ends floor guarded free rfl rfl push

end Jts.Volume
