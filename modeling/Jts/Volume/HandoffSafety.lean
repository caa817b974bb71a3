import Jts.Volume.Handoff

set_option autoImplicit false

namespace Jts.Volume

open Shared.Operation (Ends read change run)

variable (floor : Floor)

/-- The operation ends as stated wherever other processes edit the record. -/
abbrev Edited {Result : Type} (operation : VolumeOp Result) (speaker : Speaker) (post : Result → Speaker → Prop) : Prop :=
  Ends (fun _ => True) operation speaker post

/-- Camilla is muted or no louder than a level. -/
def Speaker.Quiet (speaker : Speaker) (db : Db) : Prop := speaker.mainMute = true ∨ speaker.gain ≤ db

theorem Speaker.Quiet.mono {speaker : Speaker} {low high : Db} (quiet : speaker.Quiet low) (le : low ≤ high) :
    speaker.Quiet high :=
  quiet.imp_right fun below => below.trans le

/-- What a write to Camilla does not touch. -/
structure PushesKept (before after : Speaker) : Prop where
  doubtful : after.doubtful = before.doubtful
  pushed : after.pushed = before.pushed

theorem PushesKept.trans {first middle last : Speaker} (before : PushesKept first middle)
    (after : PushesKept middle last) : PushesKept first last :=
  ⟨after.doubtful.trans before.doubtful, after.pushed.trans before.pushed⟩

/-- What an edit of the record does not touch. -/
structure CarrierKept (before after : Speaker) : Prop where
  pushes : PushesKept before after
  gain : after.gain = before.gain
  mainMute : after.mainMute = before.mainMute
  written : after.written = before.written

theorem CarrierKept.quiet {before after : Speaker} (kept : CarrierKept before after) {db : Db}
    (quiet : before.Quiet db) : after.Quiet db := by
  unfold Speaker.Quiet
  rw [kept.gain, kept.mainMute]
  exact quiet

theorem await_edited (speaker : Speaker) : Edited await speaker fun _ after => CarrierKept speaker after := by
  refine .bind (.ask trivial fun answer _ => .bind (.change (.pure ?_)))
  cases answer.edit <;> exact ⟨⟨rfl, rfl⟩, rfl, rfl, rfl⟩

theorem readVolumeAndMute_edited (speaker : Speaker) :
    Edited readVolumeAndMute speaker fun current after =>
      CarrierKept speaker after ∧ (current = none ∨ current = some (speaker.gain, speaker.mainMute)) := by
  refine .bind ((await_edited speaker).mono fun reply after kept => .bind (.read (.pure ⟨kept, ?_⟩)))
  rw [kept.gain, kept.mainMute]
  split
  · exact .inr rfl
  · exact .inl rfl

theorem writeMainMute_edited (muted : Bool) (speaker : Speaker) :
    Edited (writeMainMute muted) speaker fun ok after =>
      PushesKept speaker after ∧ after.gain = speaker.gain ∧ after.written = speaker.written ∧
        (ok = true → after.mainMute = muted) := by
  refine .bind ((await_edited speaker).mono fun reply after kept => ?_)
  cases reply with
  | done => exact .bind (.change (.pure ⟨⟨kept.pushes.1, kept.pushes.2⟩, kept.gain, kept.written, fun _ => rfl⟩))
  | lost => exact .bind (.change (.pure ⟨⟨kept.pushes.1, kept.pushes.2⟩, kept.gain, kept.written, fun _ => rfl⟩))
  | refused => exact .bind (.pure (.pure ⟨kept.pushes, kept.gain, kept.written, by simp⟩))

theorem setVolumeDb_edited (db : Db) (speaker : Speaker) :
    Edited (setVolumeDb floor db) speaker fun _ after =>
      PushesKept speaker after ∧ after.mainMute = speaker.mainMute ∧ after.written = speaker.written := by
  refine .bind ((await_edited speaker).mono fun reply after kept => ?_)
  have here := And.intro kept.pushes (And.intro kept.mainMute kept.written)
  cases reply with
  | done => exact .bind (.change (.pure ⟨⟨here.1.1, here.1.2⟩, here.2⟩))
  | lost => exact .bind (.change (.pure ⟨⟨here.1.1, here.1.2⟩, here.2⟩))
  | refused => exact .bind (.pure (.pure here))

/-- What a declared level leaves: when it is confirmed the fader is no louder. -/
structure Confirms (before : Speaker) (db : Db) (ok : Bool) (after : Speaker) : Prop where
  pushes : PushesKept before after
  mainMute : after.mainMute = before.mainMute
  written : after.written = before.written
  confirmed : ok = true → after.gain ≤ db + readbackToleranceDb

theorem faderMatches_gain {db gain : Db} {mute : Bool} {current : Option (Db × Bool)}
    (seen : current = none ∨ current = some (gain, mute)) (near : faderMatches (current.map Prod.fst) db = true) :
    gain ≤ db + readbackToleranceDb := by
  rcases seen with rfl | rfl
  · cases near
  · simp only [faderMatches, Option.map_some, decide_eq_true_eq] at near
    linarith [(abs_le.mp near).2]

theorem declareHouseholdLevelDb_edited (db : Db) (speaker : Speaker) :
    Edited (declareHouseholdLevelDb floor db) speaker (Confirms speaker db) := by
  refine .bind ((readVolumeAndMute_edited speaker).mono fun current before seen => ?_)
  obtain ⟨kept, seen⟩ := seen
  split
  · rename_i near
    refine .bind (.change (.pure ⟨⟨kept.pushes.1, kept.pushes.2⟩, kept.mainMute, kept.written, fun _ => ?_⟩))
    exact kept.gain.trans_le (faderMatches_gain seen near)
  · refine .bind ((setVolumeDb_edited floor db before).mono fun applied middle moved => ?_)
    obtain ⟨pushes, mainMute, written⟩ := moved
    have pushes := kept.pushes.trans pushes
    have mainMute := mainMute.trans kept.mainMute
    have written := written.trans kept.written
    split
    · refine .bind ((readVolumeAndMute_edited middle).mono fun observed after seen => ?_)
      obtain ⟨kept, seen⟩ := seen
      have pushes := pushes.trans kept.pushes
      refine .bind (.change (.pure ⟨⟨pushes.1, pushes.2⟩, kept.mainMute.trans mainMute, kept.written.trans written, ?_⟩))
      exact fun near => kept.gain.trans_le (faderMatches_gain seen near)
    · exact .bind (.change (.pure ⟨⟨pushes.1, pushes.2⟩, mainMute, written, by simp⟩))

/-- What a level written to Camilla leaves. -/
structure Lands (before : Speaker) (db : Db) (ok : Bool) (after : Speaker) : Prop where
  pushes : PushesKept before after
  written : after.written = before.written + 1
  quiet : ok = true → after.Quiet (db + readbackToleranceDb)

theorem writeDbWithMute_edited (db : Db) (speaker : Speaker) :
    Edited (writeDbWithMute floor db) speaker (Lands speaker db) := by
  refine .bind (.change ?_)
  split
  · refine .bind ((writeMainMute_edited true _).mono fun muteOk middle muted => ?_)
    obtain ⟨pushes, -, written, mainMute⟩ := muted
    refine .bind ((declareHouseholdLevelDb_edited floor db middle).mono fun _ after confirms => .pure ?_)
    have pushes := pushes.trans confirms.pushes
    exact ⟨⟨pushes.1, pushes.2⟩, confirms.written.trans written, fun ok => .inl (confirms.mainMute.trans (mainMute ok))⟩
  · refine .bind ((declareHouseholdLevelDb_edited floor db _).mono fun volumeOk middle confirms => ?_)
    have pushes := confirms.pushes
    split
    · rename_i confirmed
      refine (writeMainMute_edited false middle).mono fun _ after muted => ?_
      obtain ⟨unpushed, gain, written, -⟩ := muted
      have pushes := pushes.trans unpushed
      exact ⟨⟨pushes.1, pushes.2⟩, written.trans confirms.written, fun _ => .inr (gain.trans_le (confirms.confirmed confirmed))⟩
    · exact .pure ⟨⟨pushes.1, pushes.2⟩, confirms.written, by simp⟩

theorem setCamillaDb_edited (db : Db) (speaker : Speaker) :
    Edited (setCamillaDb floor db) speaker (Lands speaker db) := by
  refine .bind ((writeDbWithMute_edited floor db speaker).mono fun ok after lands => ?_)
  dsimp only
  split
  · exact .bind (.change (.pure ⟨⟨lands.pushes.1, lands.pushes.2⟩, lands.written, lands.quiet⟩))
  · exact .bind (.pure (.pure lands))

theorem effectiveLevel_edited (speaker : Speaker) :
    Edited effectiveLevel speaker fun level after => level = speaker.effectivePercent ∧ after = speaker :=
  .bind (.read (.pure ⟨rfl, rfl⟩))

/-- The guard that stands when the lane opens: no louder than the level then read, but for the coordinator's dead band. -/
def Speaker.GuardsAt (speaker : Speaker) (level : Nat) : Prop :=
  level = speaker.effectivePercent ∧ speaker.Quiet (percentToDb floor level + (reconcileDriftDb + readbackToleranceDb))

theorem guardsAt_of_settled {before after : Speaker} {guardDb : Db} (kept : CarrierKept before after)
    (quiet : before.Quiet (guardDb + readbackToleranceDb))
    (settled : guardDb - reconcileDriftDb ≤ percentToDb floor after.effectivePercent) :
    after.GuardsAt floor after.effectivePercent :=
  ⟨rfl, (kept.quiet quiet).mono (by linarith)⟩

/-- What the wait for the guard leaves, after at most so many writes. -/
structure Settles (before : Speaker) (guardDb : Db) (adjustments : Nat) (settled : Nat × Bool) (after : Speaker) :
    Prop where
  pushes : PushesKept before after
  least : before.written ≤ after.written
  most : after.written ≤ before.written + adjustments
  guards : before.Quiet (guardDb + readbackToleranceDb) → settled.2 = true → after.GuardsAt floor settled.1

theorem settleHandoffGuard_edited (adjustments : Nat) (guardDb : Db) (speaker : Speaker) :
    Edited (settleHandoffGuard floor adjustments guardDb) speaker (Settles floor speaker guardDb adjustments) := by
  induction adjustments generalizing guardDb speaker with
  | zero =>
      refine .bind ((await_edited speaker).mono fun _ middle kept => ?_)
      refine .bind ((effectiveLevel_edited middle).mono ?_)
      rintro _ _ ⟨rfl, rfl⟩
      refine .pure ⟨kept.pushes, kept.written.ge, kept.written.le, fun quiet settled => ?_⟩
      exact guardsAt_of_settled floor kept quiet (by simpa using settled)
  | succ adjustments ih =>
      refine .bind ((await_edited speaker).mono fun _ middle kept => ?_)
      refine .bind ((effectiveLevel_edited middle).mono ?_)
      rintro _ middle ⟨rfl, rfl⟩
      have written := kept.written
      dsimp only
      split
      · rename_i settled
        exact .pure ⟨kept.pushes, by omega, by omega, fun quiet _ => guardsAt_of_settled floor kept quiet settled⟩
      · refine .bind ((setCamillaDb_edited floor _ middle).mono fun ok lowered lands => ?_)
        have pushes := kept.pushes.trans lands.pushes
        have once := lands.written
        split
        · rename_i landed
          refine (ih _ lowered).mono fun _ after settles => ?_
          have least := settles.least
          have most := settles.most
          exact ⟨pushes.trans settles.pushes, by omega, by omega, fun _ => settles.guards (lands.quiet landed)⟩
        · exact .pure ⟨pushes, by omega, by omega, by simp⟩

/-- What a guarded handoff leaves. Its guard is written at least once. -/
structure Guards (before : Speaker) (handoff : SourceHandoff) (guarded : SourceHandoff) (after : Speaker) : Prop where
  source : guarded.currentSource = handoff.currentSource
  pushes : PushesKept before after
  least : before.written < after.written
  most : after.written ≤ before.written + 4
  guards : guarded.ok = true → after.GuardsAt floor guarded.level

theorem guardHandoff_edited (handoff : SourceHandoff) (guardDb : Db) (settledResult : HandoffResult) (speaker : Speaker) :
    Edited (guardHandoff floor handoff guardDb settledResult) speaker (Guards floor speaker handoff) := by
  refine .bind ((setCamillaDb_edited floor guardDb speaker).mono fun ok guarded lands => ?_)
  have once := lands.written
  split
  · rename_i landed
    refine .bind ((settleHandoffGuard_edited floor 3 guardDb guarded).mono fun settled after settles => .pure ?_)
    have least := settles.least
    have most := settles.most
    refine ⟨rfl, lands.pushes.trans settles.pushes, by omega, by omega, fun good => ?_⟩
    refine settles.guards (lands.quiet landed) ?_
    by_contra failed
    simp [SourceHandoff.ok, failed] at good
  · exact .pure ⟨rfl, lands.pushes, by omega, by omega, by simp [SourceHandoff.ok]⟩

/-- Why the lane may be opened. A camilla-master carrier that needed no guard has drifted by at most two dead bands: one
when it was read, and one that the level has moved since. -/
structure Opens (before : Speaker) (handoff : SourceHandoff) (after : Speaker) : Prop where
  master : volumeMode handoff.currentSource = .camillaMaster →
    after.Quiet (percentToDb floor after.effectivePercent +
      if after.written = before.written then 2 * reconcileDriftDb else reconcileDriftDb + readbackToleranceDb)
  push : volumeMode handoff.currentSource = .push →
    (after.doubtful handoff.currentSource = false ∧
      ∃ push, after.pushed handoff.currentSource = some push ∧ push.level = handoff.level ∧
        (push.level = push.effective ∨ push.level = after.effectivePercent)) ∨
    after.GuardsAt floor handoff.level

theorem Guards.opens {before after : Speaker} {handoff guarded : SourceHandoff}
    (guards : Guards floor before handoff guarded after) (ok : guarded.ok = true) : Opens floor before guarded after where
  master := fun _ => by
    obtain ⟨level, quiet⟩ := guards.guards ok
    rw [if_neg guards.least.ne', ← level]
    exact quiet
  push := fun _ => .inr (guards.guards ok)

/-- What every way through the preparation leaves. -/
structure Arranges (before : Speaker) (target : Source) (handoff : SourceHandoff) (after : Speaker) : Prop where
  source : handoff.currentSource = target
  most : after.written ≤ before.written + 4
  opens : handoff.ok = true → Opens floor before handoff after

theorem Guards.arranges {before after : Speaker} {handoff guarded : SourceHandoff}
    (guards : Guards floor before handoff guarded after) : Arranges floor before handoff.currentSource guarded after :=
  ⟨guards.source, guards.most, guards.opens floor⟩

-- A reading within the dead band, or a drift of it that the mute covers.
theorem quiet_of_unneeded {speaker : Speaker} {level : Nat} {guardDb : Db} {current : Option (Db × Bool)}
    (seen : current = none ∨ current = some (speaker.gain, speaker.mainMute))
    (unneeded : ¬ needsGuard level guardDb current = true) : speaker.gain ≤ guardDb + reconcileDriftDb := by
  rcases seen with rfl | rfl
  · simp [needsGuard] at unneeded
  · simp only [needsGuard, Bool.or_eq_true, decide_eq_true_eq, not_or, not_lt] at unneeded
    exact unneeded.1

theorem prepareMaster_edited {handoff : SourceHandoff} {current : Option (Db × Bool)} {speaker : Speaker}
    (seen : current = none ∨ current = some (speaker.gain, speaker.mainMute))
    (master : volumeMode handoff.currentSource = .camillaMaster) :
    Edited (prepareMaster floor handoff current) speaker (Arranges floor speaker handoff.currentSource) := by
  unfold prepareMaster
  dsimp only
  split
  · exact (guardHandoff_edited floor handoff _ .ok speaker).mono fun _ _ guards => guards.arranges floor
  · rename_i unneeded
    refine .bind ((effectiveLevel_edited speaker).mono ?_)
    rintro _ speaker ⟨rfl, rfl⟩
    split
    · exact (guardHandoff_edited floor _ _ .ok speaker).mono fun _ _ guards => guards.arranges floor
    · rename_i near
      refine .pure ⟨rfl, by omega, fun _ => ⟨fun _ => .inr ?_, fun push => absurd (master.symm.trans push) (by simp)⟩⟩
      have drift := quiet_of_unneeded seen unneeded
      rw [if_pos rfl]
      linarith [not_lt.mp near]

/-- What a push leaves: where it went well, it is the last one of its source. -/
structure Pushes (before : Speaker) (source : Source) (level : Nat) (ok : Bool) (after : Speaker) : Prop where
  written : after.written = before.written
  pushed : ok = true → after.doubtful source = false ∧ after.pushed source = some ⟨level, before.effectivePercent⟩

theorem pushSource_edited (source : Source) (level : Nat) (speaker : Speaker) :
    Edited (pushSource source level) speaker (Pushes speaker source level) := by
  unfold pushSource
  split
  · exact .pure ⟨rfl, by simp⟩
  · refine .bind (.read (.bind ((await_edited speaker).mono fun reply after kept => .bind (.change (.pure ?_)))))
    refine ⟨kept.written, fun done => ?_⟩
    obtain rfl : reply = .done := by
      simpa using done
    exact ⟨by simp, by simp⟩

theorem pushLatest_edited (source : Source) (level : Nat) (speaker : Speaker) :
    Edited (pushLatest source level) speaker fun pushed after =>
      after.written = speaker.written ∧ (pushed.2 = true → after.doubtful source = false ∧
        ∃ push, after.pushed source = some push ∧ push.level = pushed.1 ∧
          (push.level = push.effective ∨ push.level = after.effectivePercent)) := by
  refine .bind ((pushSource_edited source level speaker).mono fun ok middle pushes => ?_)
  split
  · rename_i first
    refine .bind ((effectiveLevel_edited middle).mono ?_)
    rintro _ middle ⟨rfl, rfl⟩
    split
    · rename_i same
      obtain ⟨proven, pushed⟩ := pushes.pushed first
      exact .pure ⟨pushes.written, fun _ => ⟨proven, _, pushed, rfl, .inr same.symm⟩⟩
    · refine .bind ((pushSource_edited source _ middle).mono fun again after repushes => .pure ?_)
      refine ⟨repushes.written.trans pushes.written, fun ok => ?_⟩
      obtain ⟨proven, pushed⟩ := repushes.pushed ok
      exact ⟨proven, _, pushed, rfl, .inl rfl⟩
  · exact .pure ⟨pushes.written, by simp⟩

theorem preparePush_edited {handoff : SourceHandoff} (push : volumeMode handoff.currentSource = .push)
    (speaker : Speaker) :
    Edited (preparePush floor handoff) speaker (Arranges floor speaker handoff.currentSource) := by
  refine .bind ((pushLatest_edited handoff.currentSource handoff.level speaker).mono ?_)
  rintro ⟨level, pushOk⟩ middle ⟨written, pushed⟩
  dsimp only
  split
  · rename_i ok
    exact .pure ⟨rfl, by omega, fun _ => ⟨fun master => absurd (master.symm.trans push) (by simp), fun _ => .inl (pushed ok)⟩⟩
  · refine (guardHandoff_edited floor _ _ .degradedSafe middle).mono fun guarded after guards => ?_
    refine ⟨guards.source, written ▸ guards.most, fun ok => ⟨fun master => ?_, fun _ => .inr (guards.guards ok)⟩⟩
    exact absurd (master.symm.trans (guards.source.symm ▸ push)) (by simp)

theorem prepareSourceHandoff_edited {prevSource currentSource : Source} (changed : prevSource ≠ currentSource)
    (speaker : Speaker) :
    Edited (prepareSourceHandoff floor prevSource currentSource) speaker (Arranges floor speaker currentSource) := by
  refine .bind ((effectiveLevel_edited speaker).mono ?_)
  rintro level speaker ⟨-, rfl⟩
  refine .bind ((readVolumeAndMute_edited speaker).mono fun current middle seen => ?_)
  obtain ⟨kept, seen⟩ := seen
  rw [← kept.gain, ← kept.mainMute] at seen
  have arranged : ∀ handoff after, Arranges floor middle currentSource handoff after →
      Arranges floor speaker currentSource handoff after := by
    intro handoff after arranges
    refine ⟨arranges.source, kept.written ▸ arranges.most, fun ok => ⟨fun master => ?_, (arranges.opens ok).push⟩⟩
    rw [← kept.written]
    exact (arranges.opens ok).master master
  rw [if_neg changed]
  split
  · rename_i master
    exact (prepareMaster_edited floor seen master).mono arranged
  · rename_i push
    have push : volumeMode currentSource = .push := by
      cases mode : volumeMode currentSource with
      | push => rfl
      | camillaMaster => exact absurd mode push
    exact (preparePush_edited floor push middle).mono arranged

/-- Whatever edits, readings, writes and pushes a preparation meets: it opens the lane of another source only over a safe
carrier, and its wait for the guard lowers Camilla three times at most. -/
theorem handoff_opens_only_when_safe {prevSource currentSource : Source} (changed : prevSource ≠ currentSource)
    (speaker : Speaker) (answers : List Answer) :
    let handoff := (prepareSourceHandoff floor prevSource currentSource ⟨speaker, answers⟩).1
    let after := run (prepareSourceHandoff floor prevSource currentSource) speaker answers
    handoff.currentSource = currentSource ∧ (handoff.ok = true → Opens floor speaker handoff after) ∧
      ∀ guardDb waiting answers,
        (run (settleHandoffGuard floor 3 guardDb) waiting answers).written ≤ waiting.written + 3 := by
  have arranges := (prepareSourceHandoff_edited floor changed speaker).of_run fun answer (_ : answer ∈ answers) => trivial
  refine ⟨arranges.source, arranges.opens, fun guardDb waiting answers => ?_⟩
  exact ((settleHandoffGuard_edited floor 3 guardDb waiting).of_run fun answer (_ : answer ∈ answers) => trivial).most

section Drift

def lowFloor : Floor where
  db := -50
  low := by norm_num
  high := by norm_num

-- Spotify plays at 60 %, with Camilla open.
def playing : Speaker where
  listeningLevel := 60
  preMuteLevel := none
  muteToken := none
  tokensGiven := 0
  confirmedPushMuteTokens := fun _ => none
  mainVolumeDb := 0
  gain := 0
  mainMute := false
  winner := .spotify
  exposed := some .spotify
  handoff := none
  doubtful := fun _ => false
  pushed := fun _ => none
  unlowered := false
  raised := false
  written := 0

-- Camilla carries 50 %, and has drifted by less than its dead band.
def drifted : Speaker := { playing with listeningLevel := 50, gain := percentToDb lowFloor 50 + 9 / 10 }

-- The level goes down by one percent while the fader is read.
def loweredMeanwhile : List Answer := [⟨.done, some ⟨49, none⟩⟩]

theorem drifted_handoff_opens :
    Opens lowFloor drifted (prepareSourceHandoff lowFloor .spotify .airplay ⟨drifted, loweredMeanwhile⟩).1
      (run (prepareSourceHandoff lowFloor .spotify .airplay) drifted loweredMeanwhile) :=
  (handoff_opens_only_when_safe lowFloor (by decide) drifted loweredMeanwhile).2.1 (by decide +kernel)

-- The push fails, and the level goes down by one percent while the guard settles.
def loweredUnderGuard : List Answer :=
  [.plain .done, .plain .refused, .plain .done, .plain .done, .plain .done, .plain .done, ⟨.done, some ⟨49, none⟩⟩]

theorem drifted_handoff_opens_louder :
    (let handoff := (prepareSourceHandoff lowFloor .spotify .airplay ⟨drifted, loweredMeanwhile⟩).1
      let after := run (prepareSourceHandoff lowFloor .spotify .airplay) drifted loweredMeanwhile
      handoff.ok = true ∧ volumeMode handoff.currentSource = .camillaMaster ∧ after.mainMute = false ∧
        percentToDb lowFloor after.effectivePercent + reconcileDriftDb < after.gain) ∧
    (let handoff := (prepareSourceHandoff lowFloor .spotify .bluetooth ⟨drifted, loweredUnderGuard⟩).1
      let after := run (prepareSourceHandoff lowFloor .spotify .bluetooth) drifted loweredUnderGuard
      handoff.ok = true ∧ volumeMode handoff.currentSource = .push ∧ handoff.pushOk = some false ∧
        handoff.level = after.effectivePercent ∧ after.mainMute = false ∧
        percentToDb lowFloor handoff.level < after.gain) := by
  decide +kernel

end Drift

end Jts.Volume
